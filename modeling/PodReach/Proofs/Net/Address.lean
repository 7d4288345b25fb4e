import PodReach.Proofs.Net.Groups

/-!
# Which texts denote which addresses

An IPv6 address has many spellings: the groups may have leading zeros and letters of either case, a
run of zero groups may be left out, the last two groups may be a quad, and a scope may follow.
Reading a text yields an address exactly if the text spells it, so whether an address can be reached
from outside is a matter of its number, not of its spelling.
-/

namespace PodReach.Net

open PodReach.Text

/-! ## Spellings -/

/-- An IPv6 address without a scope: eight groups with colons between them, or fewer, with two
colons in place of a run of zeros. -/
inductive Unscoped : List Char → Nat → Prop
  | full {pieces : List (List Char)} {values : List Nat} (hpieces : Pieces pieces values)
      (hlength : values.length = 8) : Unscoped ([':'].intercalate pieces) (groupsValue values)
  | short {high low : List (List Char)} {highs lows : List Nat}
      (hhigh : List.Forall₂ Group high highs) (hlow : Pieces low lows)
      (hlength : highs.length + lows.length ≤ 7) :
      Unscoped ([':'].intercalate high ++ [':', ':'] ++ [':'].intercalate low)
        (groupsValue (highs ++ List.replicate (8 - highs.length - lows.length) 0 ++ lows))

/-- A text spells an address; a scope says nothing about its number. -/
inductive Spells : List Char → Address → Prop
  | v4 {cs : List Char} {n : Nat} (h : Quad cs n) : Spells cs (.v4 n)
  | v6 {cs : List Char} {n : Nat} (h : Unscoped cs n) : Spells cs (.v6 n)
  | withScope {cs scope : List Char} {n : Nat} (h : Unscoped cs n) (hne : scope ≠ [])
      (hscope : '%' ∉ scope ∧ '/' ∉ scope) : Spells (cs ++ '%' :: scope) (.v6 n)

/-- The addresses that cannot be reached from outside: of IPv4 the blocks 127/8, 10/8, 172.16/12,
192.168/16 and 169.254/16, of IPv6 the loopback address and the blocks fe80::/10 and fc00::/7. -/
def Address.Inside : Address → Prop
  | v4 n => n / 2 ^ 24 = 127 ∨ n / 2 ^ 24 = 10 ∨ n / 2 ^ 20 = 172 * 2 ^ 4 + 1 ∨
      n / 2 ^ 16 = 192 * 2 ^ 8 + 168 ∨ n / 2 ^ 16 = 169 * 2 ^ 8 + 254
  | v6 n => n = 1 ∨ n / 2 ^ 118 = 0b1111111010 ∨ n / 2 ^ 121 = 0b1111110

/-- The numbers of a family have its bits. -/
def Address.Fits : Address → Prop
  | v4 n => n < 2 ^ 32
  | v6 n => n < 2 ^ 128

/-- A square bracket. -/
def IsBracket (c : Char) : Prop :=
  c = '[' ∨ c = ']'

/-- A text denotes an address that is spelled between the square brackets around it. -/
def Denotes (text : String) (address : Address) : Prop :=
  ∃ before core after, text.toList = before ++ core ++ after ∧ (∀ c ∈ before, IsBracket c) ∧
    (∀ c ∈ after, IsBracket c) ∧ (∀ c, core.head? = some c → ¬ IsBracket c) ∧
    (∀ c, core.getLast? = some c → ¬ IsBracket c) ∧ Spells core address

/-- A text denotes an address that cannot be reached from outside. -/
def Unreachable (text : String) : Prop :=
  ∃ address, Denotes text address ∧ address.Inside

/-! ## Texts -/

section Texts

variable {cs : List Char} {n : Nat} {address : Address}

theorem intercalate_cons {sep : Char} {piece : List Char} {pieces : List (List Char)}
    (hne : pieces ≠ []) :
    [sep].intercalate (piece :: pieces) = piece ++ sep :: [sep].intercalate pieces := by
  obtain ⟨second, rest, rfl⟩ := List.exists_cons_of_ne_nil hne
  simp [List.intercalate]

theorem intercalate_append {sep : Char} {front back : List (List Char)} (hfront : front ≠ [])
    (hback : back ≠ []) : [sep].intercalate (front ++ back) =
      [sep].intercalate front ++ sep :: [sep].intercalate back := by
  induction front with
  | nil => exact absurd rfl hfront
  | cons piece front ih =>
      by_cases hne : front = []
      · subst hne
        rw [List.singleton_append, intercalate_cons hback]
        simp [List.intercalate]
      · rw [List.cons_append, intercalate_cons (by simp [hne]), ih hne, intercalate_cons hne]
        simp

theorem side_ne_nil (groups : List (List Char)) : side groups ≠ [] := by
  unfold side
  split_ifs with h
  · simp
  · exact h

theorem intercalate_side (sep : Char) (groups : List (List Char)) :
    [sep].intercalate (side groups) = [sep].intercalate groups := by
  unfold side
  split_ifs with h
  · simp [h, List.intercalate]
  · rfl

/-- Two colons stand where an empty piece stands in the middle. -/
theorem intercalate_sides (high low : List (List Char)) :
    [':'].intercalate (side high ++ [] :: side low) =
      [':'].intercalate high ++ [':', ':'] ++ [':'].intercalate low := by
  rw [intercalate_append (side_ne_nil high) (by simp), intercalate_cons (side_ne_nil low),
    intercalate_side, intercalate_side]
  simp

theorem not_mem_groups {mark : Char} {groups : List (List Char)} {values : List Nat}
    (hmark : letterDigit? mark = none) (h : List.Forall₂ Group groups values) :
    ∀ group ∈ groups, mark ∉ group := by
  induction h with
  | nil => simp
  | cons hgroup _ ih => exact List.forall_mem_cons.mpr ⟨hgroup.not_mem hmark, ih⟩

theorem not_mem_pieces {mark : Char} {pieces : List (List Char)} {values : List Nat}
    (hmark : letterDigit? mark = none) (hpoint : mark ≠ '.') (h : Pieces pieces values) :
    ∀ piece ∈ pieces, mark ∉ piece := by
  have hdigit : isAsciiDigit mark = false := by
    by_contra hdigit
    obtain ⟨d, rfl⟩ := exists_digitChar (by simpa using hdigit)
    exact absurd ((letterDigit?_digitChar d (by omega)).1.symm.trans hmark) (by simp)
  induction h with
  | nil => simp
  | quad hquad => simpa using hquad.not_mem hdigit hpoint
  | cons hgroup _ ih => exact List.forall_mem_cons.mpr ⟨hgroup.not_mem hmark, ih⟩

theorem not_mem_side {mark : Char} {groups : List (List Char)}
    (h : ∀ group ∈ groups, mark ∉ group) : ∀ group ∈ side groups, mark ∉ group := by
  unfold side
  split_ifs
  · simp
  · exact h

/-- An end without groups stays one. -/
theorem expandQuad?_side (pieces : List (List Char)) :
    expandQuad? (side pieces) = (expandQuad? pieces).map side := by
  rcases List.eq_nil_or_concat' pieces with rfl | ⟨init, last, rfl⟩
  · rfl
  · have hside {groups : List (List Char)} (hne : groups ≠ []) : side groups = groups := if_neg hne
    rw [hside (by simp), expandQuad?_concat]
    split_ifs
    · cases readV4? last
      · rfl
      · exact congrArg some (hside (by simp)).symm
    · exact congrArg some (hside (by simp)).symm

theorem expandQuad?_eq_side {back groups : List (List Char)} (hne : back ≠ [])
    (h : expandQuad? back = some (side groups)) :
    ∃ pieces, back = side pieces ∧ expandQuad? pieces = some groups := by
  by_cases hgroups : groups = []
  · subst hgroups
    obtain ⟨init, last, rfl⟩ := (List.eq_nil_or_concat' back).resolve_left hne
    rw [expandQuad?_concat] at h
    split_ifs at h
    · obtain ⟨n, -, h⟩ := Option.map_eq_some_iff.mp h
      exact absurd (congrArg List.length h) (by simp [side])
    · exact ⟨[], Option.some.inj h, rfl⟩
  · refine ⟨back, (if_neg hne).symm, ?_⟩
    rw [h, side, if_neg hgroups]

/-- A text without a scope is read as the number that it spells. -/
theorem readV6Groups?_splitOnChar :
    readV6Groups? (splitOnChar ':' cs) = some n ↔ Unscoped cs n := by
  rw [readV6Groups?_eq_some_iff]
  constructor
  · rintro ⟨expanded, hexpand, hgroups⟩
    rw [← intercalate_splitOnChar ':' cs]
    cases hgroups with
    | full hgroups hlength => exact .full (pieces_iff.mpr ⟨_, hexpand, hgroups⟩) hlength
    | @short high low highs lows hhigh hlow hlength =>
        obtain ⟨back, hsplit, hne, hback⟩ := expandQuad?_eq_gap (side_ne_nil low) hexpand
        obtain ⟨pieces, rfl, hpieces⟩ := expandQuad?_eq_side hne hback
        rw [hsplit, intercalate_sides]
        exact .short hhigh (pieces_iff.mpr ⟨low, hpieces, hlow⟩) hlength
  · intro h
    cases h with
    | @full pieces values hpieces hlength =>
        obtain ⟨groups, hexpand, hgroups⟩ := pieces_iff.mp hpieces
        have hne : pieces ≠ [] := by
          rintro rfl
          cases hpieces
          cases hlength
        rw [splitOnChar_intercalate (not_mem_pieces rfl (by decide) hpieces) hne]
        exact ⟨groups, hexpand, .full hgroups hlength⟩
    | @short high low highs lows hhigh hlow hlength =>
        obtain ⟨groups, hexpand, hgroups⟩ := pieces_iff.mp hlow
        have hfree : ∀ piece ∈ side high ++ [] :: side low, ':' ∉ piece := by
          have hcolon : letterDigit? ':' = none := rfl
          have hhighs := not_mem_side (not_mem_groups hcolon hhigh)
          have hlows := not_mem_side (not_mem_pieces hcolon (by decide) hlow)
          exact List.forall_mem_append.mpr
            ⟨hhighs, List.forall_mem_cons.mpr ⟨List.not_mem_nil, hlows⟩⟩
        rw [← intercalate_sides, splitOnChar_intercalate hfree (by simp)]
        refine ⟨side high ++ [] :: side groups, ?_, .short hhigh hgroups hlength⟩
        rw [expandQuad?_append (by simp), ← List.singleton_append,
          expandQuad?_append (side_ne_nil low), expandQuad?_side, hexpand]
        rfl

theorem mem_of_mem_intercalate {sep c : Char} {pieces : List (List Char)}
    (h : c ∈ [sep].intercalate pieces) : c = sep ∨ ∃ piece ∈ pieces, c ∈ piece := by
  induction pieces with
  | nil => simp [List.intercalate] at h
  | cons piece pieces ih =>
      by_cases hne : pieces = []
      · subst hne
        exact Or.inr ⟨piece, List.mem_cons_self, by simpa [List.intercalate] using h⟩
      · rw [intercalate_cons hne, List.mem_append, List.mem_cons] at h
        rcases h with hpiece | hsep | hrest
        · exact Or.inr ⟨piece, List.mem_cons_self, hpiece⟩
        · exact Or.inl hsep
        · rcases ih hrest with hsep | ⟨piece', hmem, hc⟩
          · exact Or.inl hsep
          · exact Or.inr ⟨piece', List.mem_cons_of_mem piece hmem, hc⟩

/-- An address without a scope has no mark but its colons and points. -/
theorem Unscoped.not_mem {mark : Char} (h : Unscoped cs n) (hmark : letterDigit? mark = none)
    (hpoint : mark ≠ '.') (hcolon : mark ≠ ':') : mark ∉ cs := by
  have hjoined {pieces : List (List Char)} (hfree : ∀ piece ∈ pieces, mark ∉ piece) :
      mark ∉ [':'].intercalate pieces := by
    intro hmem
    rcases mem_of_mem_intercalate hmem with hsep | ⟨piece, hpiece, hc⟩
    · exact hcolon hsep
    · exact hfree piece hpiece hc
  cases h with
  | full hpieces => exact hjoined (not_mem_pieces hmark hpoint hpieces)
  | short hhigh hlow =>
      have hhighs := hjoined (not_mem_groups hmark hhigh)
      have hlows := hjoined (not_mem_pieces hmark hpoint hlow)
      simp [hhighs, hlows, hcolon]

theorem Unscoped.mem_colon (h : Unscoped cs n) : ':' ∈ cs := by
  cases h with
  | @full pieces values hpieces hlength =>
      cases hpieces with
      | nil => cases hlength
      | quad => cases hlength
      | @cons cs n pieces values hgroup hrest =>
          have hne : pieces ≠ [] := by
            rintro rfl
            cases hrest
            cases hlength
          rw [intercalate_cons hne]
          simp
  | short => simp

/-- Behind an address there may be a scope, which has no slash and no second percent sign. -/
theorem readV6?_eq_some_iff : readV6? cs = some n ↔ Unscoped cs n ∨
    ∃ text scope, cs = text ++ '%' :: scope ∧ Unscoped text n ∧ scope ≠ [] ∧ '%' ∉ scope ∧
      '/' ∉ scope := by
  have hpercent {text : List Char} (h : Unscoped text n) : '%' ∉ text :=
    h.not_mem rfl (by decide) (by decide)
  constructor
  · intro h
    unfold readV6? at h
    split at h
    · rename_i text scope hcut
      obtain ⟨rfl, -⟩ := cutAtFirst_eq_some_iff.mp hcut
      split_ifs at h with hscope
      simp only [Bool.or_eq_true, not_or, List.isEmpty_iff, List.contains_iff_mem] at hscope
      exact Or.inr ⟨text, scope, rfl, readV6Groups?_splitOnChar.mp h, hscope.1.1, hscope.1.2,
        hscope.2⟩
    · exact Or.inl (readV6Groups?_splitOnChar.mp h)
  · rintro (h | ⟨text, scope, rfl, h, hne, hscope, hslash⟩)
    · unfold readV6?
      rw [cutAtFirst_eq_none_iff.mpr (hpercent h)]
      exact readV6Groups?_splitOnChar.mpr h
    · unfold readV6?
      rw [cutAtFirst_eq_some_iff.mpr ⟨rfl, hpercent h⟩]
      dsimp only
      rw [if_neg (by simp [hne, hscope, hslash])]
      exact readV6Groups?_splitOnChar.mpr h

/-- Reading a text yields an address exactly if the text spells it. -/
theorem readAddress?_eq_some_iff : readAddress? cs = some address ↔ Spells cs address := by
  unfold readAddress?
  constructor
  · intro h
    split at h
    · rename_i n hquad
      cases h
      exact .v4 (readV4?_eq_some_iff.mp hquad)
    · obtain ⟨n, hread, rfl⟩ := Option.map_eq_some_iff.mp h
      rcases readV6?_eq_some_iff.mp hread with h | ⟨text, scope, rfl, h, hne, hscope⟩
      · exact .v6 h
      · exact .withScope h hne hscope
  · -- an IPv6 address has a colon, so it is no quad
    have hquad {text : List Char} (h : ':' ∈ text) : readV4? text = none := by
      by_contra hsome
      obtain ⟨n, hread⟩ := Option.ne_none_iff_exists'.mp hsome
      exact (readV4?_eq_some_iff.mp hread).not_mem rfl (by decide) h
    intro h
    cases h with
    | v4 h => rw [readV4?_eq_some_iff.mpr h]
    | v6 h =>
        rw [hquad h.mem_colon, readV6?_eq_some_iff.mpr (Or.inl h)]
        rfl
    | withScope h hne hscope =>
        rw [hquad (List.mem_append_left _ h.mem_colon),
          readV6?_eq_some_iff.mpr (Or.inr ⟨_, _, rfl, h, hne, hscope⟩)]
        rfl

theorem Spells.ne_nil (h : Spells cs address) : cs ≠ [] := by
  cases h with
  | v4 h => exact List.ne_nil_of_mem h.mem_point
  | v6 h => exact List.ne_nil_of_mem h.mem_colon
  | withScope => simp

theorem Spells.unique {other : Address} (h : Spells cs address) (hother : Spells cs other) :
    address = other := by
  have hread := readAddress?_eq_some_iff.mpr h
  rw [readAddress?_eq_some_iff.mpr hother] at hread
  exact (Option.some.inj hread).symm

end Texts

/-! ## Ranges -/

section Ranges

variable {text : String} {address : Address}

theorem Group.lt {cs : List Char} {n : Nat} (h : Group cs n) : n < 2 ^ 16 := by
  obtain ⟨-, hfour, ds, hds, rfl⟩ := h
  have hdigits : ∀ d ∈ ds, d < 16 := by
    clear hfour
    induction hds with
    | nil => simp
    | cons hdigit _ ih => exact List.forall_mem_cons.mpr ⟨hdigit.1, ih⟩
  calc Nat.ofDigits 16 ds.reverse < 16 ^ ds.reverse.length :=
        Nat.ofDigits_lt_base_pow_length (by norm_num) fun d hd =>
          hdigits d (List.mem_reverse.mp hd)
    _ = 16 ^ cs.length := by rw [List.length_reverse, hds.length_eq]
    _ ≤ 16 ^ 4 := Nat.pow_le_pow_right (by norm_num) hfour
    _ = 2 ^ 16 := by norm_num

theorem lt_of_groups {groups : List (List Char)} {values : List Nat}
    (h : List.Forall₂ Group groups values) : ∀ value ∈ values, value < 2 ^ 16 := by
  induction h with
  | nil => simp
  | cons hgroup _ ih => exact List.forall_mem_cons.mpr ⟨hgroup.lt, ih⟩

theorem Pieces.lt {pieces : List (List Char)} {values : List Nat} (h : Pieces pieces values) :
    ∀ value ∈ values, value < 2 ^ 16 := by
  obtain ⟨groups, -, hgroups⟩ := pieces_iff.mp h
  exact lt_of_groups hgroups

theorem groupsValue_lt {values : List Nat} (h : ∀ value ∈ values, value < 2 ^ 16) :
    groupsValue values < (2 ^ 16) ^ values.length := by
  have hbound := Nat.ofDigits_lt_base_pow_length (b := 65536) (by norm_num)
    fun value hvalue => h value (List.mem_reverse.mp hvalue)
  rwa [List.length_reverse] at hbound

/-- Eight groups are the bits of an IPv6 address. -/
theorem Unscoped.lt {cs : List Char} {n : Nat} (h : Unscoped cs n) : n < 2 ^ 128 := by
  cases h with
  | full hpieces hlength =>
      have hbound := groupsValue_lt hpieces.lt
      rw [hlength] at hbound
      exact hbound
  | @short high low highs lows hhigh hlow hlength =>
      have hvalues : ∀ value ∈ highs ++ List.replicate (8 - highs.length - lows.length) 0 ++ lows,
          value < 2 ^ 16 := by
        simp only [List.mem_append, List.mem_replicate]
        rintro value ((hvalue | ⟨-, rfl⟩) | hvalue)
        · exact lt_of_groups hhigh value hvalue
        · norm_num
        · exact hlow.lt value hvalue
      have hbound := groupsValue_lt hvalues
      rw [List.length_append, List.length_append, List.length_replicate,
        show highs.length + (8 - highs.length - lows.length) + lows.length = 8 by omega] at hbound
      exact hbound

theorem Spells.fits {cs : List Char} (h : Spells cs address) : address.Fits := by
  cases h with
  | v4 h => exact h.lt
  | v6 h => exact h.lt
  | withScope h => exact h.lt

theorem isPrivate_iff : address.isPrivate = true ↔ address.Inside := by
  cases address with
  | v4 n =>
      simp only [Address.isPrivate, privateV4, inBlock, Address.Inside, List.any_cons,
        List.any_nil, Bool.or_eq_true, beq_iff_eq, Nat.shiftRight_eq_div_pow]
      norm_num
  | v6 n =>
      simp only [Address.isPrivate, privateV6, inBlock, Address.Inside, List.any_cons,
        List.any_nil, Bool.or_eq_true, beq_iff_eq, Nat.shiftRight_eq_div_pow]
      norm_num [Nat.shiftLeft_eq]

/-- Without the brackets around it, a text is one that neither begins nor ends with one. -/
theorem denotes_iff : Denotes text address ↔
    Spells (trimBoth (fun c => c == '[' || c == ']') text.toList) address := by
  have hbracket (c : Char) : (c == '[' || c == ']') = true ↔ IsBracket c := by
    rw [Bool.or_eq_true, beq_iff_eq, beq_iff_eq, IsBracket]
  constructor
  · rintro ⟨before, core, after, htext, hbefore, hafter, hhead, hlast, hspells⟩
    rw [htext, trimBoth_append (fun c hc => (hbracket c).mpr (hbefore c hc))
      (fun c hc => (hbracket c).mpr (hafter c hc))
      (fun c hc => Bool.eq_false_iff.mpr fun h => hhead c hc ((hbracket c).mp h))
      (fun c hc => Bool.eq_false_iff.mpr fun h => hlast c hc ((hbracket c).mp h)) hspells.ne_nil]
    exact hspells
  · intro hspells
    obtain ⟨before, after, htext, hbefore, hafter⟩ :=
      exists_trimBoth (fun c => c == '[' || c == ']') text.toList
    refine ⟨before, _, after, htext, fun c hc => (hbracket c).mp (hbefore c hc),
      fun c hc => (hbracket c).mp (hafter c hc), ?_, ?_, hspells⟩
    · exact fun c hc hc' => absurd ((hbracket c).mpr hc') (by simp [head_trimBoth hc])
    · exact fun c hc hc' => absurd ((hbracket c).mpr hc') (by simp [last_trimBoth hc])

theorem Denotes.unique {other : Address} (h : Denotes text address) (hother : Denotes text other) :
    address = other :=
  (denotes_iff.mp h).unique (denotes_iff.mp hother)

theorem Denotes.fits (h : Denotes text address) : address.Fits :=
  (denotes_iff.mp h).fits

/-- Whether a text is judged to be out of reach is a matter of the address that it denotes. -/
theorem isPrivateText_iff : isPrivateText text = true ↔ Unreachable text := by
  simp only [Unreachable, denotes_iff, ← readAddress?_eq_some_iff, ← isPrivate_iff]
  unfold isPrivateText
  constructor
  · intro h
    split at h
    · rename_i address hread
      exact ⟨address, hread, h⟩
    · cases h
  · rintro ⟨address, hread, h⟩
    rw [hread]
    exact h

/-- The loopback address of IPv6 has many spellings. -/
example : ["::1", "[::1%lo]", "0:0::0001", "::0.0.0.1"].all isPrivateText = true := by
  decide

/-- A leading zero, a mapped address, the name of a machine and nothing at all are no spellings of
such an address. -/
example : ["127.0.0.01", "::ffff:127.0.0.1", "localhost", ""].any isPrivateText = false := by
  decide

end Ranges

end PodReach.Net
