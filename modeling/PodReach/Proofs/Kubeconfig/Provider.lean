import PodReach.Client
import PodReach.Proofs.Kubeconfig.Merging
import PodReach.Proofs.World.Files

/-!
# Who issued the credentials in use

A client reports who issued the credentials of its user. The user is that of the files put together,
but only the first file is scanned for the provider. So what is reported is right for a user that
the first file lists, if its entry names a provider or no other entry there has its name; no
provider is reported for a user that a later file lists.
-/

namespace PodReach

open Outcome Run

namespace Kubeconfig

/-! ## The provider that an entry names -/

/-- A value stands under these names, one inside the other. What counts as false is as good as a
mapping without entries. -/
inductive Inside : List String → Yaml → Yaml → Prop
  | here (value : Yaml) : Inside [] value value
  | under {name : String} {names : List String} {value inner : Yaml}
      {entries : List (Yaml × Yaml)} (hvalue : value.orElse (.map []) = .map entries)
      (hinner : Inside names ((Yaml.lookup? name entries).getD .null) inner) :
      Inside (name :: names) value inner

/-- The provider of a user: the one that is named, else Google if its plugin is called, else
none. -/
inductive IssuedBy (user : Yaml) : Yaml → Prop
  | named {provider : Yaml} (hprovider : Inside ["auth-provider", "name"] user provider)
      (htruthy : provider.truthy = true) : IssuedBy user provider
  | plugin {provider command : Yaml} (hprovider : Inside ["auth-provider", "name"] user provider)
      (hunnamed : provider.truthy = false) (hcommand : Inside ["exec", "command"] user command)
      (hcalls : command.truthy = true ∧ command.holds googlePlugin = .ok true) :
      IssuedBy user (.text "gcp")
  | unknown {provider command : Yaml} (hprovider : Inside ["auth-provider", "name"] user provider)
      (hunnamed : provider.truthy = false) (hcommand : Inside ["exec", "command"] user command)
      (hcalls : command.truthy = true → command.holds googlePlugin = .ok false) :
      IssuedBy user .null

section Entries

variable {user value inner name entry provider : Yaml} {users : List Yaml}

theorem fieldOf_eq_ok_iff {key : String} :
    fieldOf key (orEmpty value) = .ok inner ↔ Inside [key] value inner := by
  constructor
  · intro h
    cases hvalue : orEmpty value with
    | map entries =>
        rw [hvalue] at h
        cases h
        exact .under hvalue (.here _)
    | _ => rw [hvalue] at h; cases h
  · intro h
    cases h with
    | under hvalue hinner =>
        cases hinner
        rw [orEmpty, hvalue]
        rfl

theorem inside_pair_iff {outer last : String} : Inside [outer, last] value inner ↔
    ∃ middle, fieldOf outer (orEmpty value) = .ok middle ∧
      fieldOf last (orEmpty middle) = .ok inner := by
  simp only [fieldOf_eq_ok_iff]
  constructor
  · intro h
    cases h with
    | under hvalue hinner => exact ⟨_, .under hvalue (.here _), hinner⟩
  · rintro ⟨middle, houter, hlast⟩
    cases houter with
    | under hvalue hinner =>
        cases hinner
        exact .under hvalue hlast

theorem mentionsPlugin_eq_ok_iff {found : Bool} : mentionsPlugin value = .ok found ↔
    if found then value.truthy = true ∧ value.holds googlePlugin = .ok true
    else value.truthy = true → value.holds googlePlugin = .ok false := by
  unfold mentionsPlugin
  cases htruthy : value.truthy <;> cases found <;> simp

/-- A provider comes from what is named, or else from the command that is called. -/
theorem providerOf_steps : providerOf user = .ok provider ↔ ∃ named,
    Inside ["auth-provider", "name"] user named ∧
      (named.truthy = true ∧ named = provider ∨ named.truthy = false ∧
        ∃ command found, Inside ["exec", "command"] user command ∧
          mentionsPlugin command = .ok found ∧
          (if found then Yaml.text "gcp" else .null) = provider) := by
  simp only [providerOf, bind_eq_ok_iff, inside_pair_iff]
  constructor
  · rintro ⟨middle, hmiddle, named, hnamed, h⟩
    refine ⟨named, ⟨middle, hmiddle, hnamed⟩, ?_⟩
    cases htruthy : named.truthy with
    | true =>
        rw [htruthy] at h
        exact Or.inl ⟨rfl, Except.ok.inj h⟩
    | false =>
        rw [htruthy] at h
        simp only [Bool.false_eq_true, if_false, bind_eq_ok_iff] at h
        obtain ⟨exec, hexec, command, hcommand, found, hfound, h⟩ := h
        exact Or.inr ⟨rfl, command, found, ⟨exec, hexec, hcommand⟩, hfound, Except.ok.inj h⟩
  · rintro ⟨named, ⟨middle, hmiddle, hnamed⟩, h⟩
    refine ⟨middle, hmiddle, named, hnamed, ?_⟩
    rcases h with ⟨htruthy, rfl⟩ | ⟨htruthy, command, found, ⟨exec, hexec, hcommand⟩, hfound, rfl⟩
    · rw [htruthy]
      rfl
    · rw [htruthy]
      simp only [Bool.false_eq_true, if_false, bind_eq_ok_iff]
      exact ⟨exec, hexec, command, hcommand, found, hfound, rfl⟩

/-- The provider that the fields of a user name is the one that issued its credentials. -/
theorem providerOf_eq_ok_iff : providerOf user = .ok provider ↔ IssuedBy user provider := by
  rw [providerOf_steps]
  constructor
  · rintro ⟨named, hnamed, ⟨htruthy, rfl⟩ | ⟨htruthy, command, found, hcommand, hfound, rfl⟩⟩
    · exact .named hnamed htruthy
    · rw [mentionsPlugin_eq_ok_iff] at hfound
      cases found with
      | true => exact .plugin hnamed htruthy hcommand hfound
      | false => exact .unknown hnamed htruthy hcommand hfound
  · intro h
    cases h with
    | named hnamed htruthy => exact ⟨provider, hnamed, Or.inl ⟨htruthy, rfl⟩⟩
    | plugin hnamed hunnamed hcommand hcalls =>
        exact ⟨_, hnamed, Or.inr ⟨hunnamed, _, true, hcommand,
          mentionsPlugin_eq_ok_iff.mpr hcalls, rfl⟩⟩
    | unknown hnamed hunnamed hcommand hcalls =>
        exact ⟨_, hnamed, Or.inr ⟨hunnamed, _, false, hcommand,
          mentionsPlugin_eq_ok_iff.mpr hcalls, rfl⟩⟩

/-- A provider that counts as false is none at all. -/
theorem IssuedBy.eq_null (h : IssuedBy user provider) (hfalse : provider.truthy = false) :
    provider = .null := by
  cases h with
  | named _ htruthy => simp [htruthy] at hfalse
  | plugin => simp [Yaml.truthy] at hfalse
  | unknown => rfl

/-! ## The scan of a list -/

/-- Of an entry that is a mapping the scan knows whether it bears a name. -/
theorem exists_fieldOf_name (hname : name.truthy = true) (hmap : entry.isMap = true) :
    ∃ own, fieldOf "name" entry = .ok own ∧ Yaml.same own name = bears name entry := by
  cases entry with
  | map entries =>
      refine ⟨_, rfl, ?_⟩
      cases hlookup : Yaml.lookup? "name" entries with
      | some own => rw [bears, hlookup]; rfl
      | none =>
          rw [bears, hlookup]
          cases name <;> simp_all [Yaml.same, Yaml.truthy]
  | _ => cases hmap

/-- A name that no entry bears has no provider. -/
theorem providerIn_of_none (hname : name.truthy = true) (hmaps : ∀ e ∈ users, e.isMap = true)
    (hnone : users.find? (bears name) = none) : providerIn name users = .ok .null := by
  induction users with
  | nil => rfl
  | cons first rest ih =>
      obtain ⟨hfirst, hrest⟩ := List.forall_mem_cons.mp hmaps
      obtain ⟨own, hown, hsame⟩ := exists_fieldOf_name hname hfirst
      rw [List.find?_cons] at hnone
      cases hbears : bears name first with
      | true => simp [hbears] at hnone
      | false =>
          rw [hbears] at hnone hsame
          simp only [providerIn, hown, hsame, bind, Except.bind]
          exact ih hrest hnone

/-- The provider of a name is that of the first entry that bears it, if that entry names one or no
other entry bears the name. -/
theorem providerIn_of_found (hname : name.truthy = true) (hmaps : ∀ e ∈ users, e.isMap = true)
    (hfound : users.find? (bears name) = some entry) (huser : fieldOf "user" entry = .ok user)
    (hissued : IssuedBy user provider)
    (honce : provider.truthy = true ∨ users.countP (bears name) ≤ 1) :
    providerIn name users = .ok provider := by
  induction users with
  | nil => cases hfound
  | cons first rest ih =>
      obtain ⟨hfirst, hrest⟩ := List.forall_mem_cons.mp hmaps
      obtain ⟨own, hown, hsame⟩ := exists_fieldOf_name hname hfirst
      rw [List.find?_cons] at hfound
      rw [List.countP_cons] at honce
      cases hbears : bears name first with
      | true =>
          rw [hbears] at hfound hsame honce
          obtain rfl := Option.some.inj hfound
          simp only [providerIn, hown, hsame, huser, providerOf_eq_ok_iff.mpr hissued, bind,
            Except.bind]
          cases htruthy : provider.truthy with
          | true => rfl
          | false =>
              rw [hissued.eq_null htruthy]
              refine providerIn_of_none hname hrest (List.find?_eq_none.mpr fun e he => ?_)
              have hcount := honce.resolve_left (by simp [htruthy])
              exact List.countP_eq_zero.mp (by simpa using hcount) e he
      | false =>
          rw [hbears] at hfound hsame honce
          simp only [providerIn, hown, hsame, bind, Except.bind]
          exact ih hrest hfound (by simpa using honce)

end Entries

/-! ## The scan of a file -/

section Scan

variable {w : World} {given : Option String} {name found : Yaml} {users : List Yaml}

/-- No provider is found where nothing lies. -/
theorem provider_of_nothing (h : w.fileAt? (firstPath w.home given) = none) :
    provider given name w = (.ok .null, w) := by
  unfold provider
  rw [bind_of_ok (get_apply w), h]
  split <;> rfl

/-- What counts as false is the name of no user. -/
theorem provider_of_false (h : name.truthy = false) : provider given name w = (.ok .null, w) := by
  unfold provider
  rw [bind_of_ok (get_apply w), h]
  rfl

/-- The provider of a name is found among the users of the first file. -/
theorem provider_of_listsUsers (hname : name.truthy = true)
    (h : ListsUsers w (firstPath w.home given) users) (hfound : providerIn name users = .ok found) :
    provider given name w = (.ok found, w) := by
  obtain ⟨entries, ⟨lying, content, hlying, hread, hmap⟩, husers⟩ := h
  have hentries : fieldOf "users" (orEmpty (.map entries)) =
      .ok ((Yaml.lookup? "users" entries).getD .null) := by
    cases entries <;> rfl
  unfold provider
  rw [bind_of_ok (get_apply w), hname, hlying]
  simp only [Option.map_some, hread, hmap, hentries, husers, hfound, bind, Except.bind]
  rfl

end Scan

/-! ## The user that is used and the user that is scanned for -/

theorem ListsUsers.of_samePlaces {w after : World} {path : String} {users : List Yaml}
    (hplaces : World.SamePlaces w after) (h : ListsUsers w path users) :
    ListsUsers after path users := by
  unfold ListsUsers HoldsMap at h ⊢
  rwa [hplaces.fileAt?_eq]

section Agreement

variable {w : World} {given : Option String} {k : Kubeconfig} {name : Yaml}
  {context entry fields : Part}

/-- The user of a context is that of the first entry that bears its name. -/
theorem met_of_userOf (h : userOf k context = .ok (some fields))
    (hname : context.field? "user" = .ok name) : name.truthy = true ∧
      (∀ p ∈ k.users, p.value.isMap = true) ∧
      ∃ entry, (k.users.find? fun p => bears name p.value) = some entry ∧
        entry.file = fields.file ∧ fieldOf "user" entry.value = .ok fields.value := by
  obtain ⟨htruthy, hkind⟩ := name_of_userOf h hname
  obtain ⟨hmaps, ⟨-, hnone⟩ | ⟨entry, _, hmet, hunder, hfields⟩⟩ :=
    userOf_eq_ok h hname htruthy hkind
  · cases hnone
  · obtain rfl := Option.some.inj hfields
    obtain ⟨entries, hvalue, hlookup, hfile⟩ := Part.under_eq_ok hunder
    refine ⟨htruthy, hmaps, entry, hmet, hfile.symm, ?_⟩
    rw [hvalue, fieldOf, hlookup]
    rfl

/-- The entry that is used and the entry that the scan meets are the same, if the first file lists
it; the scan meets none if another file does, and none if nobody has the name. -/
theorem scanned_of_load {w' : World} (name : Yaml) (hload : load given w = (.ok k, w'))
    (hmaps : ∀ p ∈ k.users, p.value.isMap = true) :
    (w.fileAt? (firstPath w.home given) = none ∧
      ∀ p ∈ k.users, p.file ≠ firstPath w.home given) ∨
    ∃ users, ListsUsers w (firstPath w.home given) users ∧ (∀ e ∈ users, e.isMap = true) ∧
      users.find? (bears name) =
        ((k.users.find? fun p => bears name p.value).filter fun p =>
          p.file == firstPath w.home given).map (·.value) := by
  obtain ⟨-, hall, hnothing | ⟨users, merged, hlists, hmerged, hgathered⟩⟩ := load_eq_ok hload
  · refine Or.inl ⟨hnothing, fun p hp hfile => ?_⟩
    obtain ⟨listed, ⟨entries, ⟨lying, content, hlying, -⟩, -⟩, -⟩ :=
      (hall.origin p hp).resolve_left (by simp)
    rw [hfile, hnothing] at hlying
    cases hlying
  · have hfirst : ∀ p ∈ merged, p.file = firstPath w.home given := fun p hp =>
      ((hmerged.origin p hp).resolve_left (by simp)).1
    have hfound := hmerged.found name
    obtain ⟨later, hlater⟩ := hgathered.kept
    rw [List.map_nil, List.nil_append, List.find?_map, Function.comp_def] at hfound
    refine Or.inr ⟨users, hlists, hmerged.maps fun p hp => hmaps p (hgathered.kept.subset hp), ?_⟩
    rw [← hfound, ← hlater, List.find?_append]
    cases hmet : merged.find? fun p => bears name p.value with
    | some p => simp [hfirst p (List.mem_of_find?_eq_some hmet)]
    | none =>
        rw [hmet, Option.map_none, eq_comm, List.find?_eq_none] at hfound
        cases hmetLater : later.find? fun p => bears name p.value with
        | none => rfl
        | some p =>
            -- The first file given once more would list the entry, and the scan would meet it.
            have hother : p.file ≠ firstPath w.home given := by
              intro hfile
              have hp := List.mem_of_find?_eq_some hmetLater
              have hbears := List.find?_some hmetLater
              obtain ⟨listed, hagain, hmem⟩ := (hall.origin p (hlater ▸
                List.mem_append_right merged hp)).resolve_left (by simp)
              rw [hfile] at hagain
              exact hfound p.value (hlists.unique hagain ▸ hmem) hbears
            simp [hother]

/-- Where files lie where they lay, the scan finds nothing for a name that it does not meet. -/
theorem provider_of_unmet {w' after : World} (hload : load given w = (.ok k, w'))
    (hplaces : World.SamePlaces w after) (hmaps : ∀ p ∈ k.users, p.value.isMap = true)
    (hname : name.truthy = true)
    (hother : ∀ p, (k.users.find? fun p => bears name p.value) = some p →
      p.file ≠ firstPath w.home given) : provider given name after = (.ok .null, after) := by
  rcases scanned_of_load name hload hmaps with
    ⟨hnothing, -⟩ | ⟨users, hlists, husers, hfound⟩
  · exact provider_of_nothing (by rw [hplaces.home, hplaces.fileAt?_eq, hnothing])
  · refine provider_of_listsUsers hname ?_ (providerIn_of_none hname husers ?_)
    · rw [hplaces.home]
      exact hlists.of_samePlaces hplaces
    · rw [hfound]
      cases hmet : k.users.find? fun p => bears name p.value with
      | none => rfl
      | some p => simp [hother p hmet]

/-- Where files lie where they lay, the scan meets the entry of the first file that is used. -/
theorem provider_of_met {w' after : World} {user provided : Yaml}
    (hload : load given w = (.ok k, w')) (hplaces : World.SamePlaces w after)
    (hmaps : ∀ p ∈ k.users, p.value.isMap = true) (hname : name.truthy = true)
    (hmet : (k.users.find? fun p => bears name p.value) = some entry)
    (hfile : entry.file = firstPath w.home given) (huser : fieldOf "user" entry.value = .ok user)
    (hissued : IssuedBy user provided)
    (honce : provided.truthy = true ∨
      ∀ users, ListsUsers w (firstPath w.home given) users → users.countP (bears name) ≤ 1) :
    provider given name after = (.ok provided, after) := by
  rcases scanned_of_load name hload hmaps with
    ⟨-, hother⟩ | ⟨users, hlists, husers, hfound⟩
  · exact absurd hfile (hother entry (List.mem_of_find?_eq_some hmet))
  · rw [hmet] at hfound
    refine provider_of_listsUsers hname ?_ (providerIn_of_found hname husers
      (by simpa [Option.filter, hfile] using hfound) huser hissued
      (honce.imp_right fun h => h users hlists))
    rw [hplaces.home]
    exact hlists.of_samePlaces hplaces

end Agreement

end Kubeconfig

/-! ## The client -/

namespace Client

open Kubeconfig World

/-- What a client connects with: the context whose user and cluster are used, the context that it
calls its own, and the address of the server. -/
structure Connection where
  used : Chosen
  active : Chosen
  address : Option String

/-- Look for the credentials of the user of a context, if it has one. -/
def signIn (chosen : Chosen) : Run Unit :=
  match chosen.user with
  | some user => authenticate user chosen.cluster
  | none => pure ()

/-- The connection that the files lead to, for a wanted context or the current one. -/
def connect (context given : Option String) : Run Connection := do
  let k ← load given
  let used ← MonadExcept.ofExcept (k.choose context)
  signIn used
  let address ← MonadExcept.ofExcept (connection (← get) used)
  let current ← MonadExcept.ofExcept (k.choose none)
  return ⟨used, if (Text.nonempty context).isSome then used else current, address⟩

/-- The client of a connection, with its namespace and the provider of its user. -/
def ofConnection (ns given : Option String) (c : Connection) : Run Client := do
  let contextual ← MonadExcept.ofExcept (c.active.context.field? "namespace")
  let user ← MonadExcept.ofExcept (c.active.context.field? "user")
  let provider ← Kubeconfig.provider given user
  return ⟨chooseNs ns contextual, c.active.name, provider, c.address.getD Http.usualServer⟩

/-- A client is built from a connection, and from nothing else. -/
theorem ofKubeconfig_eq (ns context given : Option String) :
    ofKubeconfig ns context given = connect context given >>= ofConnection ns given := by
  unfold connect
  simp only [bind_assoc, pure_bind]
  refine bind_congr fun k => bind_congr fun used => ?_
  unfold signIn
  cases used.user <;> rfl

section Connect

variable {w after : World} {context given : Option String} {c : Connection} {name provider : Yaml}

/-- Looking for credentials leaves files where they lie. -/
theorem samePlaces_signIn (chosen : Chosen) : Keeps SamePlaces (signIn chosen) := by
  unfold signIn
  split
  · unfold authenticate
    refine keeps_get.bind fun w => ?_
    split
    · refine (keeps_ofExcept _).bind fun issued => ?_
      split
      · refine (keeps_ofExcept _).bind fun token => ?_
        split
        · refine (keeps_ofExcept _).bind fun plugin => ?_
          split
          · exact (samePlaces_record _).bind fun _ => keeps_ofExcept _
          · exact keeps_ofExcept _
        · exact keeps_pure ()
      · exact keeps_pure ()
    · exact keeps_pure ()
  · exact keeps_pure ()

/-- The steps that lead to a connection. -/
theorem connect_eq_ok (h : connect context given w = (.ok c, after)) : ∃ k current,
    load given w = (.ok k, w) ∧ k.choose context = .ok c.used ∧
      signIn c.used w = (.ok (), after) ∧ connection after c.used = .ok c.address ∧
      k.choose none = .ok current ∧
      c.active = if (Text.nonempty context).isSome then c.used else current := by
  unfold connect at h
  obtain ⟨k, w₁, hload, hloaded⟩ := bind_eq_ok h
  obtain rfl := (load_eq_ok hload).1
  obtain ⟨used, w₂, huse, hchosen⟩ := bind_eq_ok hloaded
  obtain ⟨hused, rfl⟩ := ofExcept_eq_ok huse
  obtain ⟨_, w₃, hsigned, hready⟩ := bind_eq_ok hchosen
  rw [bind_of_ok (get_apply w₃)] at hready
  obtain ⟨address, w₄, hcheck, hchecked⟩ := bind_eq_ok hready
  obtain ⟨haddress, rfl⟩ := ofExcept_eq_ok hcheck
  obtain ⟨current, w₅, hpresent, hended⟩ := bind_eq_ok hchecked
  obtain ⟨hcurrent, rfl⟩ := ofExcept_eq_ok hpresent
  cases hended
  exact ⟨k, current, hload, hused, hsigned, haddress, hcurrent, rfl⟩

/-- A context in use can be asked for anything. -/
theorem exists_field? {k : Kubeconfig} {chosen : Chosen} {wanted : Option String}
    (h : k.choose wanted = .ok chosen) (key : String) :
    ∃ value, chosen.context.field? key = .ok value := by
  have hmap := (choose_eq_ok h).2
  unfold Part.field?
  cases hvalue : chosen.context.value with
  | map entries => exact ⟨_, rfl⟩
  | _ => rw [hvalue] at hmap; cases hmap

/-- A client is a connection with its namespace and the provider of its user. -/
theorem ofKubeconfig_of_connect (ns : Option String)
    (h : connect context given w = (.ok c, after))
    (hname : c.active.context.field? "user" = .ok name)
    (hprovider : Kubeconfig.provider given name after = (.ok provider, after)) :
    ∃ client, ofKubeconfig ns context given w = (.ok client, after) ∧
      client.context = c.active.name ∧ client.authProvider = provider := by
  obtain ⟨k, current, -, hused, -, -, hcurrent, hactive⟩ := connect_eq_ok h
  obtain ⟨contextual, hcontextual⟩ : ∃ contextual,
      c.active.context.field? "namespace" = .ok contextual := by
    rw [hactive]
    split
    · exact exists_field? hused _
    · exact exists_field? hcurrent _
  rw [ofKubeconfig_eq, bind_of_ok h]
  unfold ofConnection
  rw [bind_of_ok (by rw [ofExcept_apply, hcontextual]),
    bind_of_ok (by rw [ofExcept_apply, hname]), bind_of_ok hprovider]
  exact ⟨_, rfl, rfl, rfl⟩

/-- A client is built, and it reports this provider. -/
def Reports (ns context given : Option String) (w after : World) (provider : Yaml) : Prop :=
  ∃ client, ofKubeconfig ns context given w = (.ok client, after) ∧ client.authProvider = provider

/-- **The provider that a client reports.** A client reports who issued the credentials of the user
that is used, if the first file lists that user and its entry names a provider or is the only one
there with its name. No provider is reported for a user that a later file lists, and none if nobody
is listed. The user is that of the context that is used, unless the empty context is wanted. -/
theorem authProvider_law (ns : Option String)
    (h : connect context given w = (.ok c, after))
    (hname : c.active.context.field? "user" = .ok name) (hkind : name.isCollection = false) :
    (context ≠ some "" → c.active = c.used) ∧
    (∀ user provider, c.active.user = some user → user.file = firstPath w.home given →
      IssuedBy user.value provider →
      (provider.truthy = true ∨
        ∀ users, ListsUsers w (firstPath w.home given) users → users.countP (bears name) ≤ 1) →
      Reports ns context given w after provider) ∧
    (∀ user, c.active.user = some user → user.file ≠ firstPath w.home given →
      Reports ns context given w after .null) ∧
    (c.active.user = none → Reports ns context given w after .null) := by
  obtain ⟨k, current, hload, hused, hsigned, haddress, hcurrent, hactive⟩ := connect_eq_ok h
  have hplaces : SamePlaces w after := (samePlaces_signIn c.used).of_run hsigned
  have huser : userOf k c.active.context = .ok c.active.user := by
    rw [hactive]
    split
    · exact (choose_eq_ok hused).1
    · exact (choose_eq_ok hcurrent).1
  have hreports : ∀ provider, Kubeconfig.provider given name after = (.ok provider, after) →
      Reports ns context given w after provider := by
    intro provider hprovider
    obtain ⟨client, hclient, -, hreported⟩ := ofKubeconfig_of_connect ns h hname hprovider
    exact ⟨client, hclient, hreported⟩
  refine ⟨fun hcontext => ?_, fun user provider hsome hfile hissued honce => ?_,
    fun user hsome hfile => ?_, fun hnone => ?_⟩
  · rw [hactive]
    split
    · rfl
    · rename_i hnone
      obtain rfl : context = none := by
        cases context with
        | none => rfl
        | some wanted =>
            have hne : wanted ≠ "" := fun hempty => hcontext (hempty ▸ rfl)
            simp [Text.nonempty, hne] at hnone
      exact Except.ok.inj (hcurrent.symm.trans hused)
  · rw [hsome] at huser
    obtain ⟨htruthy, hmaps, entry, hmet, hsame, hfields⟩ := met_of_userOf huser hname
    exact hreports provider (provider_of_met hload hplaces hmaps htruthy hmet (hsame.trans hfile)
      hfields hissued honce)
  · rw [hsome] at huser
    obtain ⟨htruthy, hmaps, entry, hmet, hsame, -⟩ := met_of_userOf huser hname
    refine hreports _ (provider_of_unmet hload hplaces hmaps htruthy fun p hp => ?_)
    obtain rfl := Option.some.inj (hmet.symm.trans hp)
    exact hsame ▸ hfile
  · cases htruthy : name.truthy with
    | false => exact hreports _ (provider_of_false htruthy)
    | true =>
        rw [hnone] at huser
        obtain ⟨hmaps, ⟨hmet, -⟩ | ⟨entry, fields, -, -, hfields⟩⟩ :=
          userOf_eq_ok huser hname htruthy hkind
        · exact hreports _ (provider_of_unmet hload hplaces hmaps htruthy (by simp [hmet]))
        · cases hfields

/-- A connection whose user stands in a file and has its credentials from Google. -/
def usesGoogle (file : String) (c : Connection) : Bool :=
  match c.used.user, c.active.context.field? "user" with
  | some user, .ok (.text _) =>
    user.file == file && match providerOf user.value with
      | .ok (.text provider) => provider == "gcp"
      | _ => false
  | _, _ => false

theorem of_usesGoogle {file : String} (h : usesGoogle file c = true) : ∃ user name,
    c.used.user = some user ∧ c.active.context.field? "user" = .ok name ∧
      name.isCollection = false ∧ user.file = file ∧ IssuedBy user.value (.text "gcp") := by
  unfold usesGoogle at h
  split at h
  · rename_i user name huser hname
    obtain ⟨hfile, hissued⟩ := Bool.and_eq_true_iff.mp h
    refine ⟨user, _, huser, hname, rfl, eq_of_beq hfile, providerOf_eq_ok_iff.mp ?_⟩
    split at hissued
    · rename_i provider hprovider
      rw [hprovider, eq_of_beq hissued]
    · cases hissued
  · cases h

/-- A world with two kubeconfig files: one has a context, and the other has the user that it
names. -/
def twoFiles : World :=
  { World.empty with files := [
      ("<HOME>/place", .file <|
        "contexts: [\x7bname: c, context: \x7bcluster: k, user: me\x7d\x7d]\n"
        ++ "clusters: [\x7bname: k, cluster: \x7b\x7d\x7d]\ncurrent-context: c\n"),
      ("<HOME>/people", .file <| "users: [\x7bname: me, user: \x7bauth-provider: "
        ++ "\x7bname: gcp, config: \x7baccess-token: t\x7d\x7d\x7d\x7d]\n")] }

theorem authProvider_law_first : ∃ c after name,
    connect none (some "<HOME>/people:<HOME>/place") twoFiles = (.ok c, after) ∧
      c.active.context.field? "user" = .ok name ∧ name.isCollection = false ∧
      Reports none none (some "<HOME>/people:<HOME>/place") twoFiles after (.text "gcp") := by
  have hrun : ((connect none (some "<HOME>/people:<HOME>/place") twoFiles).1.toOption.map
      (usesGoogle "<HOME>/people")) = some true := by decide +kernel
  have hfirst : firstPath twoFiles.home (some "<HOME>/people:<HOME>/place") = "<HOME>/people" := by
    decide +kernel
  rcases hconnect : connect none (some "<HOME>/people:<HOME>/place") twoFiles with
    ⟨halt | c, after⟩ <;> rw [hconnect] at hrun
  · cases hrun
  · obtain ⟨user, name, huser, hname, hkind, hfile, hissued⟩ :=
      of_usesGoogle (Option.some.inj hrun)
    obtain ⟨hactive, hreports, -⟩ := authProvider_law none hconnect hname hkind
    rw [← hactive nofun] at huser
    exact ⟨c, after, name, rfl, hname, hkind,
      hreports user _ huser (hfile.trans hfirst.symm) hissued (Or.inl rfl)⟩

/-- No provider is reported for a user that a later file lists. -/
theorem authProvider_of_later_file : ∃ c user client after after',
    connect none (some "<HOME>/place:<HOME>/people") twoFiles = (.ok c, after) ∧
      c.used.user = some user ∧ IssuedBy user.value (.text "gcp") ∧
      ofKubeconfig none none (some "<HOME>/place:<HOME>/people") twoFiles = (.ok client, after') ∧
      client.authProvider = .null := by
  obtain ⟨hrun, hbuilt⟩ : ((connect none (some "<HOME>/place:<HOME>/people")
        twoFiles).1.toOption.map (usesGoogle "<HOME>/people")) = some true ∧
      ((ofKubeconfig none none (some "<HOME>/place:<HOME>/people") twoFiles).1.toOption.map
        fun client => Yaml.same client.authProvider .null) = some true := by decide +kernel
  rcases hconnect : connect none (some "<HOME>/place:<HOME>/people") twoFiles with
    ⟨halt | c, after⟩ <;> rw [hconnect] at hrun
  · cases hrun
  · rcases hclient : ofKubeconfig none none (some "<HOME>/place:<HOME>/people") twoFiles with
      ⟨halt | client, after'⟩ <;> rw [hclient] at hbuilt
    · cases hbuilt
    · obtain ⟨user, name, huser, -, -, -, hissued⟩ := of_usesGoogle (Option.some.inj hrun)
      refine ⟨c, user, client, after, after', rfl, huser, hissued, rfl, ?_⟩
      exact Yaml.eq_null_of_same (Option.some.inj hbuilt)

/-! Two slips of the scan lie outside the law. It goes on past an entry that names no provider, and
it asks for parts of what has none. -/

/-- What issued the credentials of the user of a connection, if that can be told. -/
def usedProvider? (c : Connection) : Option Yaml :=
  c.used.user.bind fun user => (providerOf user.value).toOption

theorem of_usedProvider? (h : (usedProvider? c).any (Yaml.same · .null) = true) :
    ∃ user, c.used.user = some user ∧ IssuedBy user.value .null := by
  obtain ⟨issued, hissued, hsame⟩ := (Option.any_eq_true _ _).mp h
  obtain ⟨user, huser, hprovider⟩ := Option.bind_eq_some_iff.mp hissued
  refine ⟨user, huser, providerOf_eq_ok_iff.mp ?_⟩
  rw [← Yaml.eq_null_of_same hsame]
  cases hresult : providerOf user.value with
  | error mistake =>
      rw [hresult] at hprovider
      cases hprovider
  | ok provider =>
      rw [hresult] at hprovider
      exact congrArg Except.ok (Option.some.inj hprovider)

/-- The same two files with other users. -/
def withUsers (users : String) : World :=
  { twoFiles with files := twoFiles.files.take 1 ++
      [("<HOME>/people", .file s!"users: [{users}]\n")] }

/-- The entry that is used has a token and no provider, but the provider of another entry of the
same name in the same file is reported. -/
theorem authProvider_of_repeated_name :
    let w := withUsers ("\x7bname: me, user: \x7btoken: t\x7d\x7d, "
      ++ "\x7bname: me, user: \x7bauth-provider: \x7bname: gcp\x7d\x7d\x7d")
    let given := some "<HOME>/people:<HOME>/place"
    ∃ c user client after after', connect none given w = (.ok c, after) ∧
      c.used.user = some user ∧ IssuedBy user.value .null ∧
      ofKubeconfig none none given w = (.ok client, after') ∧
      Yaml.same client.authProvider (.text "gcp") = true := by
  intro w given
  obtain ⟨hrun, hbuilt⟩ : ((connect none given w).1.toOption.map fun c =>
        (usedProvider? c).any (Yaml.same · .null)) = some true ∧
      ((ofKubeconfig none none given w).1.toOption.map fun client =>
        Yaml.same client.authProvider (.text "gcp")) = some true := by decide +kernel
  rcases hconnect : connect none given w with ⟨halt | c, after⟩ <;> rw [hconnect] at hrun
  · cases hrun
  · rcases hclient : ofKubeconfig none none given w with ⟨halt | client, after'⟩ <;>
      rw [hclient] at hbuilt
    · cases hbuilt
    · obtain ⟨user, huser, hissued⟩ := of_usedProvider? (Option.some.inj hrun)
      exact ⟨c, user, client, after, after', rfl, huser, hissued, rfl, Option.some.inj hbuilt⟩

/-- An entry whose provider is a text can be connected with, but no client is built. -/
theorem authProvider_of_odd_shape :
    let w := withUsers "\x7bname: me, user: \x7bauth-provider: gcp\x7d\x7d"
    let given := some "<HOME>/people:<HOME>/place"
    (connect none given w).1.toBool = true ∧
      (ofKubeconfig none none given w).1.map (fun _ => ()) = .error (.mistake .noSuchPart) := by
  decide +kernel

end Connect

end Client
end PodReach
