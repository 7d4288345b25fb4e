import PodReach.Fault
import PodReach.Yaml.Parts

/-!
# Parts of a kubeconfig

A part is a value together with the place where it stands: a file, and the names that lead to it.
What is looked for in a part has to be there and must not be null, or else the kubeconfig cannot be
used; a value that has no named parts at all is a mistake instead.
-/

namespace PodReach.Kubeconfig

/-- A part of a kubeconfig file. -/
structure Part where
  file : String
  /-- The file and the names under which the part stands, as messages show them. -/
  label : String
  value : Yaml
  deriving Inhabited

/-- A mistake ends what is being done. -/
def orHalt {α : Type} : Except Mistake α → Except Halt α
  | .ok a => .ok a
  | .error mistake => .error (.mistake mistake)

namespace Part

/-- The part that stands under a name of another one. -/
def child (p : Part) (name : String) (value : Yaml) : Part :=
  ⟨p.file, p.label ++ "/" ++ name, value⟩

/-- Whether something stands under a name. -/
def has (p : Part) (name : String) : Except Halt Bool :=
  orHalt (p.value.holds name)

/-- What stands under a name of an entry. A list or a text that holds the name has nothing under
it. -/
def under (p : Part) (name : String) : Except Halt Part := do
  if ← p.has name then
    match p.value with
    | .map entries =>
      match (Yaml.lookup? name entries).getD .null with
      | .null => throw .noClusterConfig
      | value => return p.child name value
    | _ => throw (.mistake .wrongKind)
  else throw .noClusterConfig

/-- What stands under a name of a value; only a mapping or a list can be asked. -/
def field (p : Part) (name : String) : Except Halt Part :=
  if p.value.isCollection then p.under name else .error (.mistake .wrongKind)

/-- What stands under a name of a value, or null. -/
def field? (p : Part) (name : String) : Except Halt Yaml :=
  match p.value with
  | .map entries => .ok ((Yaml.lookup? name entries).getD .null)
  | .list items =>
    if items.any (Yaml.same (.text name)) then .error (.mistake .wrongKind) else .ok .null
  | _ => .error (.mistake .noSuchPart)

/-- Whether two names are the same; a mapping or a list is the name of nothing. -/
def sameName (a b : Yaml) : Bool :=
  !a.isCollection && Yaml.same a b

end Part
end PodReach.Kubeconfig
