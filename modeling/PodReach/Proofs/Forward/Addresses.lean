import PodReach.Proofs.Forward.Listening

/-!
# The addresses that ports are listened for on

Ports are listened for on what the given texts stand for, on every address once. Repetitions are
dropped after the name of this machine has been replaced, so it does not matter whether an address
is repeated by itself or by that name. If they were not, a second attempt would find the address in
use; as it is, each port is tried once on each address.
-/

namespace PodReach

namespace Forward

open Run

/-! ## First occurrences -/

/-- A list keeps every element of another one once, in the order of the first occurrences. -/
structure KeepsFirst (texts kept : List String) : Prop where
  distinct : kept.Nodup
  mem_iff : ∀ text, text ∈ kept ↔ text ∈ texts
  order : kept.Pairwise fun earlier later => texts.idxOf earlier < texts.idxOf later

namespace KeepsFirst

variable {texts kept kept' : List String}

/-- Only one list keeps the first occurrences of another one. -/
theorem unique (h : KeepsFirst texts kept) (h' : KeepsFirst texts kept') : kept = kept' := by
  have hperm : kept.Perm kept' := by
    rw [List.perm_ext_iff_of_nodup h.distinct h'.distinct]
    exact fun text => (h.mem_iff text).trans (h'.mem_iff text).symm
  exact hperm.eq_of_pairwise (fun _ _ _ _ hlt hgt => absurd hlt (Nat.lt_asymm hgt)) h.order h'.order

/-- A list without repetitions keeps itself. -/
theorem of_nodup (h : kept.Nodup) : KeepsFirst kept kept where
  distinct := h
  mem_iff := fun _ => Iff.rfl
  order := by
    rw [List.pairwise_iff_getElem]
    intro i j hi hj hij
    rw [h.idxOf_getElem i hi, h.idxOf_getElem j hj]
    exact hij

end KeepsFirst

section Occurrences

variable {text : String} {seen texts : List String}

theorem firstOccurrences_cons_of_mem (h : text ∈ seen) :
    firstOccurrences seen (text :: texts) = firstOccurrences seen texts :=
  if_pos (List.contains_iff_mem.mpr h)

theorem firstOccurrences_cons_of_not_mem (h : text ∉ seen) :
    firstOccurrences seen (text :: texts) = text :: firstOccurrences (seen ++ [text]) texts :=
  if_neg (h ∘ List.contains_iff_mem.mp)

/-- What was seen before might as well be left out. -/
theorem firstOccurrences_eq_eraseDups (seen texts : List String) :
    firstOccurrences seen texts = (texts.filter (· ∉ seen)).eraseDups := by
  induction texts generalizing seen with
  | nil => rfl
  | cons text texts ih =>
      by_cases hseen : text ∈ seen
      · rw [firstOccurrences_cons_of_mem hseen, ih, List.filter_cons_of_neg (by simpa using hseen)]
      · rw [firstOccurrences_cons_of_not_mem hseen, ih,
          List.filter_cons_of_pos (by simpa using hseen), List.eraseDups_cons, List.filter_filter]
        refine congrArg (text :: List.eraseDups ·) (List.filter_congr fun other _ => ?_)
        by_cases hsame : other = text
        · simp [hsame]
        · simp [hsame]

theorem mem_firstOccurrences {other : String} :
    other ∈ firstOccurrences seen texts ↔ other ∈ texts ∧ other ∉ seen := by
  rw [firstOccurrences_eq_eraseDups, List.mem_eraseDups, List.mem_filter, decide_eq_true_iff]

/-- What is kept stands in the order of the first occurrences. -/
theorem order_firstOccurrences (seen texts : List String) :
    (firstOccurrences seen texts).Pairwise fun earlier later =>
      texts.idxOf earlier < texts.idxOf later := by
  induction texts generalizing seen with
  | nil => exact List.Pairwise.nil
  | cons text texts ih =>
      have hne {seen' : List String} (hmem : text ∈ seen') {other : String}
          (hother : other ∈ firstOccurrences seen' texts) : text ≠ other := by
        rintro rfl
        exact (mem_firstOccurrences.mp hother).2 hmem
      -- what is kept of the rest is never the first text, so its places only move up by one
      have hrest {seen' : List String} (hmem : text ∈ seen') :
          (firstOccurrences seen' texts).Pairwise fun earlier later =>
            (text :: texts).idxOf earlier < (text :: texts).idxOf later := by
        refine (ih seen').imp_of_mem fun {earlier later} hearlier hlater hlt => ?_
        rw [List.idxOf_cons_ne texts (hne hmem hearlier),
          List.idxOf_cons_ne texts (hne hmem hlater)]
        exact Nat.succ_lt_succ hlt
      by_cases hseen : text ∈ seen
      · rw [firstOccurrences_cons_of_mem hseen]
        exact hrest hseen
      · have hmem : text ∈ seen ++ [text] := by simp
        rw [firstOccurrences_cons_of_not_mem hseen, List.pairwise_cons]
        refine ⟨fun later hlater => ?_, hrest hmem⟩
        rw [List.idxOf_cons_self, List.idxOf_cons_ne texts (hne hmem hlater)]
        exact Nat.succ_pos _

theorem keepsFirst_eraseDups (texts : List String) : KeepsFirst texts texts.eraseDups := by
  have hkept : firstOccurrences [] texts = texts.eraseDups := by
    simp [firstOccurrences_eq_eraseDups]
  have horder := order_firstOccurrences [] texts
  rw [hkept] at horder
  refine ⟨horder.imp ?_, fun text => List.mem_eraseDups, horder⟩
  rintro earlier later hlt rfl
  exact Nat.lt_irrefl _ hlt

end Occurrences

/-! ## Addresses -/

/-- The addresses that some texts stand for, one text after the other. Without any text they are
those of this machine. -/
def expansion (addresses : List String) : List String :=
  (if addresses = [] then ["localhost"] else addresses).flatMap loopbacks

section Texts

variable {address : String} {addresses : List String}

theorem resolveAddresses_eq (addresses : List String) :
    resolveAddresses addresses = (expansion addresses).eraseDups := by
  simp [resolveAddresses, expansion, firstOccurrences_eq_eraseDups]

theorem keepsFirst_resolveAddresses (addresses : List String) :
    KeepsFirst (expansion addresses) (resolveAddresses addresses) := by
  rw [resolveAddresses_eq]
  exact keepsFirst_eraseDups _

theorem loopbacks_of_ne (h : address ≠ "localhost") : loopbacks address = [address] :=
  if_neg (by simpa using h)

theorem mem_flatMap_loopbacks : address ∈ addresses.flatMap loopbacks ↔
    address ∈ addresses ∧ address ≠ "localhost" ∨
      "localhost" ∈ addresses ∧ address ∈ ["127.0.0.1", "::1"] := by
  rw [List.mem_flatMap]
  constructor
  · rintro ⟨named, hmem, hstands⟩
    by_cases hlocal : named = "localhost"
    · subst hlocal
      exact Or.inr ⟨hmem, hstands⟩
    · rw [loopbacks_of_ne hlocal, List.mem_singleton] at hstands
      subst hstands
      exact Or.inl ⟨hmem, hlocal⟩
  · rintro (⟨hmem, hne⟩ | ⟨hmem, hloopback⟩)
    · exact ⟨address, hmem, by simp [loopbacks_of_ne hne]⟩
    · exact ⟨"localhost", hmem, hloopback⟩

/-- Ports are listened for on the given addresses and, if this machine is named or nothing is, on
its loopback addresses. -/
theorem mem_resolveAddresses : address ∈ resolveAddresses addresses ↔
    address ∈ addresses ∧ address ≠ "localhost" ∨
      (addresses = [] ∨ "localhost" ∈ addresses) ∧ address ∈ ["127.0.0.1", "::1"] := by
  rw [(keepsFirst_resolveAddresses addresses).mem_iff, expansion]
  split_ifs with hempty
  · rw [mem_flatMap_loopbacks, hempty]
    simp
  · rw [mem_flatMap_loopbacks]
    simp [hempty]

theorem localhost_not_mem_resolveAddresses (addresses : List String) :
    "localhost" ∉ resolveAddresses addresses := by
  rw [mem_resolveAddresses]
  rintro (⟨-, hne⟩ | ⟨-, hloopback⟩)
  · exact hne rfl
  · exact absurd hloopback (by decide)

theorem resolveAddresses_ne_nil (addresses : List String) : resolveAddresses addresses ≠ [] := by
  have hloopback (h : addresses = [] ∨ "localhost" ∈ addresses) :
      "127.0.0.1" ∈ resolveAddresses addresses :=
    mem_resolveAddresses.mpr (Or.inr ⟨h, by simp⟩)
  cases addresses with
  | nil => exact List.ne_nil_of_mem (hloopback (Or.inl rfl))
  | cons address rest =>
      by_cases hlocal : address = "localhost"
      · exact List.ne_nil_of_mem (hloopback (Or.inr (by simp [hlocal])))
      · have hmem : address ∈ resolveAddresses (address :: rest) :=
          mem_resolveAddresses.mpr (Or.inl ⟨by simp, hlocal⟩)
        exact List.ne_nil_of_mem hmem

/-- Addresses stand for themselves if none of them is the name of this machine. -/
theorem expansion_of_not_mem (hne : addresses ≠ []) (h : "localhost" ∉ addresses) :
    expansion addresses = addresses := by
  rw [expansion, if_neg hne]
  clear hne
  induction addresses with
  | nil => rfl
  | cons address rest ih =>
      obtain ⟨hfirst, hrest⟩ := not_or.mp (List.mem_cons.not.mp h)
      rw [List.flatMap_cons, loopbacks_of_ne (Ne.symm hfirst), ih hrest, List.singleton_append]

theorem resolveAddresses_idempotent (addresses : List String) :
    resolveAddresses (resolveAddresses addresses) = resolveAddresses addresses := by
  have hkept := keepsFirst_resolveAddresses (resolveAddresses addresses)
  rw [expansion_of_not_mem (resolveAddresses_ne_nil addresses)
    (localhost_not_mem_resolveAddresses addresses)] at hkept
  exact hkept.unique (.of_nodup (keepsFirst_resolveAddresses addresses).distinct)

/-- Further addresses are added behind, without those that are there already. -/
theorem resolveAddresses_append (hne : addresses ≠ []) (more : List String) :
    resolveAddresses (addresses ++ more) = resolveAddresses addresses ++
      ((more.flatMap loopbacks).filter (· ∉ resolveAddresses addresses)).eraseDups := by
  have hexpansion : expansion (addresses ++ more) =
      expansion addresses ++ more.flatMap loopbacks := by
    rw [expansion, expansion, if_neg hne, if_neg (by simp [hne]), List.flatMap_append]
  have hnew : (more.flatMap loopbacks).removeAll (expansion addresses) =
      (more.flatMap loopbacks).filter (· ∉ resolveAddresses addresses) := by
    refine List.filter_congr fun address _ => ?_
    simp [(keepsFirst_resolveAddresses addresses).mem_iff]
  rw [resolveAddresses_eq, hexpansion, List.eraseDups_append, hnew, ← resolveAddresses_eq]

end Texts

/-! ## Attempts -/

/-- A port is tried on some addresses, one attempt after the other. Once an attempt has settled its
number, it is tried under that. A mistake ends it. -/
inductive Tried : Port → List String → World → World → Prop
  | done (port : Port) (w : World) : Tried port [] w w
  | refused {port : Port} {address : String} {rest : List String} {w v w' : World}
      (attempt : listenOn address port w = (.ok .refused, v)) (later : Tried port rest v w') :
      Tried port (address :: rest) w w'
  | listening {port : Port} {address : String} {rest : List String} {l : Listener} {w v w' : World}
      (attempt : listenOn address port w = (.ok (.listening l), v))
      (later : Tried l.port rest v w') : Tried port (address :: rest) w w'
  | mistaken {port : Port} {address : String} {rest : List String} {mistake : Mistake}
      {w w' : World} (attempt : listenOn address port w = (.ok (.mistaken mistake), w')) :
      Tried port (address :: rest) w w'

/-- Ports are tried one after the other, each of them on the same addresses. -/
inductive TriedAll (addresses : List String) : List Port → World → World → Prop
  | done (w : World) : TriedAll addresses [] w w
  | next {port : Port} {rest : List Port} {w v w' : World} (tried : Tried port addresses w v)
      (later : TriedAll addresses rest v w') : TriedAll addresses (port :: rest) w w'

/-- There were at most so many attempts to listen, and just so many if all addresses are those of
hosts. -/
def Counted (addresses : List String) (network : Network) (most : Nat) (later : Network) : Prop :=
  ∃ attempts, network.Attempted attempts later ∧ attempts ≤ most ∧
    ((∀ address ∈ addresses, network.takesHost address = true) → attempts = most)

variable {port : Port} {addresses : List String} {w w' : World}

theorem Counted.trans {network between later : Network} {first second : Nat}
    (h : Counted addresses network first between) (h' : Counted addresses between second later) :
    Counted addresses network (first + second) later := by
  obtain ⟨attempts, hattempted, hle, hall⟩ := h
  obtain ⟨others, hothers, hle', hall'⟩ := h'
  rw [hattempted.takesHost] at hall'
  exact ⟨attempts + others, hattempted.trans hothers, Nat.add_le_add hle hle',
    fun hhosts => by rw [hall hhosts, hall' hhosts]⟩

/-- An attempt always comes to something, and asks for a socket once. Only a name that is none of a
host is a mistake. -/
theorem listenOn_attempted (address : String) (port : Port) (w : World) :
    ∃ outcome v, listenOn address port w = (.ok outcome, v) ∧ w.network.Attempted 1 v.network ∧
      ∀ mistake, outcome = .mistaken mistake → w.network.takesHost address = false := by
  by_cases hrefused : w.network.Refuses address port.localPort
  · obtain ⟨entries, hattempt⟩ := listenOn_of_refuses hrefused
    exact ⟨_, _, hattempt, .refused w.network address port.localPort, nofun⟩
  · by_cases hstumbles : w.network.Stumbles address
    · exact ⟨_, _, listenOn_of_stumbles hstumbles, .stumbled w.network, fun _ _ => hstumbles.2⟩
    · obtain ⟨entries, hattempt⟩ := listenOn_of_free hrefused hstumbles
      exact ⟨_, _, hattempt, .joined w.network address port.localPort, nofun⟩

theorem attempted_of_listenOn {address : String} {outcome : Attempt} {v : World}
    (h : listenOn address port w = (.ok outcome, v)) : w.network.Attempted 1 v.network := by
  obtain ⟨outcome', v', hattempt, hone, -⟩ := listenOn_attempted address port w
  obtain ⟨-, rfl⟩ := Prod.mk.inj (h.symm.trans hattempt)
  exact hone

theorem Tried.counted (h : Tried port addresses w w') :
    Counted addresses w.network addresses.length w'.network := by
  -- an attempt, and then those on the other addresses
  have hnext {address : String} {rest : List String} {w v w' : World}
      (hone : w.network.Attempted 1 v.network)
      (ih : Counted rest v.network rest.length w'.network) :
      Counted (address :: rest) w.network (address :: rest).length w'.network := by
    obtain ⟨attempts, hattempted, hle, hall⟩ := ih
    rw [hone.takesHost] at hall
    rw [List.length_cons, Nat.add_comm]
    exact ⟨1 + attempts, hone.trans hattempted, Nat.add_le_add_left hle 1,
      fun hhosts => by rw [hall fun other hother => hhosts other (List.mem_cons_of_mem _ hother)]⟩
  induction h with
  | done port w => exact ⟨0, .refl _, Nat.le_refl 0, fun _ => rfl⟩
  | refused attempt later ih => exact hnext (attempted_of_listenOn attempt) ih
  | listening attempt later ih => exact hnext (attempted_of_listenOn attempt) ih
  | @mistaken port address rest mistake w w' attempt =>
      obtain ⟨outcome, v, hattempt, -, hmistaken⟩ := listenOn_attempted address port w
      obtain ⟨houtcome, -⟩ := Prod.mk.inj (attempt.symm.trans hattempt)
      have hhost := hmistaken mistake (Except.ok.inj houtcome).symm
      refine ⟨1, attempted_of_listenOn attempt, Nat.le_add_left 1 _, fun hhosts => ?_⟩
      rw [hhosts address List.mem_cons_self] at hhost
      cases hhost

theorem TriedAll.counted {ports : List Port} (h : TriedAll addresses ports w w') :
    Counted addresses w.network (ports.length * addresses.length) w'.network := by
  induction h with
  | done w =>
      rw [List.length_nil, Nat.zero_mul]
      exact ⟨0, .refl _, Nat.le_refl 0, fun _ => rfl⟩
  | next tried later ih =>
      rw [List.length_cons, Nat.succ_mul, Nat.add_comm]
      exact tried.counted.trans ih

/-- Listening for a port is trying it once on each of the addresses. -/
theorem tried_listenEverywhere (port : Port) (addresses : List String) (w : World) :
    ∃ outcome w', listenEverywhere port addresses w = (.ok outcome, w') ∧
      Tried port addresses w w' := by
  induction addresses generalizing port w with
  | nil => exact ⟨_, w, rfl, .done port w⟩
  | cons address rest ih =>
      obtain ⟨outcome, v, hattempt, -⟩ := listenOn_attempted address port w
      unfold listenEverywhere
      rw [bind_of_ok hattempt]
      cases outcome with
      | refused =>
          obtain ⟨others, w', hrun, htried⟩ := ih port v
          exact ⟨others, w', hrun, .refused hattempt htried⟩
      | mistaken mistake => exact ⟨_, v, rfl, .mistaken hattempt⟩
      | listening listener =>
          obtain ⟨others, w', hrun, htried⟩ := ih listener.port v
          exact ⟨_, w', bind_of_ok hrun, .listening hattempt htried⟩

/-- Listening for ports is trying them one after the other, until all are tried, one of them got
no listener, or an address was a mistake. -/
theorem triedAll_listenAll (addresses : List String) (ports : List Port) (w : World) :
    ∃ listening w' tried, listenAll addresses ports w = (.ok listening, w') ∧ tried <+: ports ∧
      TriedAll addresses tried w w' := by
  induction ports generalizing w with
  | nil => exact ⟨_, w, [], rfl, List.prefix_rfl, .done w⟩
  | cons port rest ih =>
      obtain ⟨all, v, hport, htried⟩ := tried_listenEverywhere port addresses w
      unfold listenAll
      rw [bind_of_ok hport]
      cases all.mistake with
      | some mistake => exact ⟨_, v, [port], rfl, by simp, .next htried (.done v)⟩
      | none =>
          dsimp only
          split_ifs with hnone
          · exact ⟨_, v, [port], rfl, by simp, .next htried (.done v)⟩
          · obtain ⟨others, w', tried, hrun, hprefix, hlater⟩ := ih v
            exact ⟨_, w', port :: tried, bind_of_ok hrun, List.cons_prefix_cons.mpr ⟨rfl, hprefix⟩,
              .next htried hlater⟩

theorem makeJob_addresses {pod : Pod} {ports : List String} {job : Job}
    (h : Job.make pod ports addresses w = (.ok job, w')) :
    job.addresses = resolveAddresses addresses := by
  obtain ⟨metadata, v, hmetadata, hrest⟩ := bind_eq_ok h
  obtain ⟨v', v'', hget, hmade⟩ := bind_eq_ok hrest
  cases hports : readPorts ports with
  | error failure =>
      rw [hports] at hmade
      cases hmade
  | ok read =>
      rw [hports] at hmade
      obtain ⟨_, u, -, hmade⟩ := bind_eq_ok hmade
      obtain rfl := Except.ok.inj (Prod.mk.inj hmade).1
      rfl

/-- **Resolving addresses is expansion without repetitions.** There is always an address to listen
on, and none of them is the name of this machine. They are what the given texts stand for, each once
and in the order of the first occurrences. To resolve them again changes nothing, and giving more
texts adds behind them what is new in the expansion of these. So whatever the network answers, a
port is never tried twice on an address: the ports are tried in turn, each once on every address
unless one is no host, and that is all that is attempted. -/
theorem resolveAddresses_law (addresses : List String) :
    KeepsFirst (expansion addresses) (resolveAddresses addresses) ∧
    resolveAddresses addresses ≠ [] ∧
    "localhost" ∉ resolveAddresses addresses ∧
    (∀ address, address ∈ resolveAddresses addresses ↔
      address ∈ addresses ∧ address ≠ "localhost" ∨
        (addresses = [] ∨ "localhost" ∈ addresses) ∧ address ∈ ["127.0.0.1", "::1"]) ∧
    resolveAddresses (resolveAddresses addresses) = resolveAddresses addresses ∧
    (addresses ≠ [] → ∀ more, ∃ added,
      resolveAddresses (addresses ++ more) = resolveAddresses addresses ++ added ∧
      KeepsFirst ((more.flatMap loopbacks).filter (· ∉ resolveAddresses addresses)) added) ∧
    ∀ pod ports w job v, Job.make pod ports addresses w = (.ok job, v) →
      ∃ listening v' tried, listenAll job.addresses job.ports v = (.ok listening, v') ∧
        tried <+: job.ports ∧ TriedAll (resolveAddresses addresses) tried v v' ∧
        Counted (resolveAddresses addresses) v.network
          (tried.length * (resolveAddresses addresses).length) v'.network := by
  refine ⟨keepsFirst_resolveAddresses addresses, resolveAddresses_ne_nil addresses,
    localhost_not_mem_resolveAddresses addresses, fun address => mem_resolveAddresses,
    resolveAddresses_idempotent addresses, fun hne more => ?_, fun pod ports w job v hjob => ?_⟩
  · exact ⟨_, resolveAddresses_append hne more, keepsFirst_eraseDups _⟩
  · obtain ⟨listening, v', tried, hrun, hprefix, htried⟩ :=
      triedAll_listenAll job.addresses job.ports v
    rw [makeJob_addresses hjob] at htried
    exact ⟨listening, v', tried, hrun, hprefix, htried, htried.counted⟩

/-- This machine is named between two addresses, the latter of which is one of its own. One of the
texts that are added is new. -/
theorem resolveAddresses_law_named_twice :
    let addresses := ["10.0.0.5", "localhost", "127.0.0.1"]
    let pod : Pod :=
      { metadata := some ⟨some "web-0", some "default", [], none, false⟩
        spec := none
        status := none }
    resolveAddresses addresses = ["10.0.0.5", "127.0.0.1", "::1"] ∧ addresses ≠ [] ∧
    resolveAddresses (addresses ++ ["::1", "0.0.0.0", "localhost"]) =
      ["10.0.0.5", "127.0.0.1", "::1", "0.0.0.0"] ∧
    ∃ job v, Job.make pod ["8080", ":90"] addresses World.empty = (.ok job, v) ∧
      ∃ listening v' tried, listenAll job.addresses job.ports v = (.ok listening, v') ∧
        tried <+: job.ports ∧ TriedAll ["10.0.0.5", "127.0.0.1", "::1"] tried v v' := by
  intro addresses pod
  have hresolved : resolveAddresses addresses = ["10.0.0.5", "127.0.0.1", "::1"] := by
    decide +kernel
  obtain ⟨-, -, -, -, -, hmore, hjobs⟩ := resolveAddresses_law addresses
  obtain ⟨added, hadded, hkept⟩ := hmore (by decide) ["::1", "0.0.0.0", "localhost"]
  have hnew : (["::1", "0.0.0.0", "localhost"].flatMap loopbacks).filter
      (· ∉ resolveAddresses addresses) = ["0.0.0.0"] := by
    decide +kernel
  rw [hnew] at hkept
  obtain rfl : added = ["0.0.0.0"] := hkept.unique (.of_nodup (by decide))
  rw [hresolved] at hadded hjobs
  have hmade : (Job.make pod ["8080", ":90"] addresses World.empty).1.toBool = true := by
    decide +kernel
  refine ⟨hresolved, by decide, hadded, ?_⟩
  rcases hjob : Job.make pod ["8080", ":90"] addresses World.empty with ⟨halt | job, v⟩
  · rw [hjob] at hmade
    cases hmade
  · obtain ⟨listening, v', tried, hrun, hprefix, htried, -⟩ := hjobs _ _ _ _ _ hjob
    exact ⟨job, v, rfl, listening, v', tried, hrun, hprefix, htried⟩

end Forward

end PodReach
