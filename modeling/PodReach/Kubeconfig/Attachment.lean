import PodReach.Kubeconfig.Part
import PodReach.Text.Base64
import PodReach.Text.Surrogate
import PodReach.World.Path

/-!
# What may stand in a file of its own

Certificates, keys and tokens stand in the kubeconfig itself or in another file; then the path is
relative to the kubeconfig. Something that is given in place is preferred.
-/

namespace PodReach.Kubeconfig

/-- A certificate, a key or a token as a kubeconfig gives it. -/
inductive Attachment
  | absent
  | inline (value : Yaml)
  | file (path : String)
  deriving Inhabited

namespace Attachment

/-- The attachment of an owner that has its content under one name, or a path under another. The
path is relative to a kubeconfig file. -/
def of (w : World) (kubeconfig : String) (owner : Part) (inlineName fileName : String) :
    Except Halt Attachment := do
  if !owner.value.truthy then return .absent
  else if ← owner.has inlineName then return .inline (← owner.field inlineName).value
  else if ← owner.has fileName then
    match (← owner.field fileName).value with
    | .text path => return .file (w.besidePath kubeconfig path)
    | _ => throw (.mistake .wrongKind)
  else return .absent

/-- The certificate or key that an owner has under a name, with its content under the name that is
derived from it. -/
def named (w : World) (kubeconfig : String) (owner : Part) (name : String) :
    Except Halt Attachment :=
  of w kubeconfig owner (name ++ "-data") name

/-- Whether a token is there: it is not empty. -/
def isToken (w : World) : Attachment → Except Halt Bool
  | .absent => .ok false
  | .inline value => .ok value.truthy
  | .file path =>
    if path.toList.contains '\x00' then .error (.mistake .badValue)
    else match w.fileAt? path with
      | some lying => do return !(← lying.read).isEmpty
      | none => .error (.fault (.os "No such file or directory"))

/-- Check the content of a certificate or a key: it is in Base64. -/
def checkContent : Yaml → Except Mistake Unit
  | .text s =>
    if Text.isEncodable s && (Text.base64? s.toList).isSome then .ok () else .error .badValue
  | .bytes b =>
    if (Text.base64? (b.map fun byte => Char.ofNat byte.toNat)).isSome then .ok ()
    else .error .badValue
  | _ => .error .wrongKind

/-- Check that a certificate or a key can be used: its content can be decoded, or its file is
there. -/
def check (w : World) : Attachment → Except Halt Unit
  | .absent => .ok ()
  | .inline value => if value.truthy then orHalt (checkContent value) else .ok ()
  | .file path => if w.isFileAt path then .ok () else .error .noClusterConfig

end Attachment
end PodReach.Kubeconfig
