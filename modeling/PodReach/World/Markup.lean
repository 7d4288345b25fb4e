import PodReach.Text.Surrogate

/-!
# Markup

A text for the console may hold tags, names in square brackets that are closed by the same name
behind a slash. What the console makes of tags is its own affair, but a text that closes what it has
not opened cannot be rendered at all, and then nothing of it appears. Which texts can be rendered is
part of the world. A text that has an encoding always can if there is no opening bracket in it, and
also if its only tag is a simple word that is closed again.
-/

namespace PodReach

namespace Markup

/-- A text has an encoding, and nothing in it can be read as the beginning of a tag. -/
def isTagless (text : String) : Bool := Text.isEncodable text && !text.toList.contains '['

/-- A tagless text that does not keep a tag behind it from being read as one. -/
def isPlain (text : String) : Bool := isTagless text && !text.toList.contains '\\'

/-- A tag that is made of small letters only. -/
def isWord (tag : String) : Bool := !tag.isEmpty && tag.toList.all Char.isLower

/-- A text with one part of it between a tag and its closing. -/
def tagged (before tag inner after : String) : String :=
  before ++ "[" ++ tag ++ "]" ++ inner ++ "[/" ++ tag ++ "]" ++ after

end Markup

/-- Which texts the console can render. -/
structure Markup where
  renders : String → Bool
  tagless : ∀ text, Markup.isTagless text = true → renders text = true
  word : ∀ before tag inner after, Markup.isPlain before = true → Markup.isWord tag = true →
    Markup.isPlain inner = true → Markup.isTagless after = true →
      renders (Markup.tagged before tag inner after) = true

namespace Markup

/-- A console that renders every text. -/
def lenient : Markup := ⟨fun _ => true, fun _ _ => rfl, fun _ _ _ _ _ _ _ _ => rfl⟩

instance : Inhabited Markup := ⟨lenient⟩

end Markup

end PodReach
