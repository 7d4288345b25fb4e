import PodReach.Command.Forward
import PodReach.Proofs.Command.Frames
import PodReach.Proofs.Forward.Addresses
import PodReach.Proofs.Forward.Frames
import PodReach.Proofs.Forward.Port
import PodReach.Proofs.Net.Address
import PodReach.Proofs.World.Written
import PodReach.Proofs.Yaml.Keys

/-!
# Warnings about exposed ports

The warnings are about the addresses as they are given, but the ports are listened for on the
addresses that these stand for. Nobody listens before all warnings are out, and what an address is
replaced by cannot be reached from outside, so there is no listener on an exposed address without a
warning before it.
-/

namespace PodReach

open Run World

namespace Forward

/-- The port number is what follows the last colon. -/
theorem endpoint_injective {address other : String} {n m : Nat}
    (h : endpoint address n = endpoint other m) : address = other := by
  have hcut (a : String) (k : Nat) : Text.cutAtFirst ':' (endpoint a k).toList.reverse =
      some ((toString k).toList.reverse, a.toList.reverse) := by
    refine Text.cutAtFirst_eq_some_iff.mpr ⟨?_, ?_⟩
    · simp [endpoint, toString]
    · intro hmem
      have hbounds := bounds_of_mem_toString (List.mem_reverse.mp hmem)
      revert hbounds
      decide
  have hsame := hcut address n
  rw [h, hcut other m] at hsame
  have haddress := (Prod.mk.inj (Option.some.inj hsame)).2
  exact (String.toList_inj.mp (List.reverse_injective haddress)).symm

end Forward

namespace Command

/-! ## What a warning says -/

/-- What a warning about an address says. -/
def exposureText (address : String) : String :=
  s!"地址 {address} 不是私有地址，转发端口可能被外部访问"

/-- The line that warns about an address. -/
def exposureLine (address : String) : String :=
  s!"[yellow]⚠️  主人，{exposureText address}[/yellow]"

/-- How a warning about an address begins. -/
def exposureMark : String := "[yellow]⚠️  主人，" ++ "地址 "

/-- How a warning about an address ends. -/
def exposureTail : String := " 不是私有地址，转发端口可能被外部访问" ++ "[/yellow]"

/-- An address that is warned about. -/
def Exposed (address : Yaml) : Prop :=
  address ≠ .text "localhost" ∧ ¬ Net.Unreachable address.shown

theorem toList_exposureLine (address : String) : (exposureLine address).toList =
    exposureMark.toList ++ (address.toList ++ exposureTail.toList) := by
  have hline : exposureLine address = "[yellow]⚠️  主人，" ++
      ("地址 " ++ address ++ " 不是私有地址，转发端口可能被外部访问") ++ "[/yellow]" := rfl
  have hmark : exposureMark.toList = "[yellow]⚠️  主人，".toList ++ "地址 ".toList :=
    String.toList_append
  have htail : exposureTail.toList =
      " 不是私有地址，转发端口可能被外部访问".toList ++ "[/yellow]".toList := String.toList_append
  rw [hline, hmark, htail, String.toList_append, String.toList_append, String.toList_append,
    String.toList_append, List.append_assoc, List.append_assoc, List.append_assoc,
    List.append_assoc]

/-- Warnings about different addresses are different. -/
theorem exposureLine_injective : Function.Injective exposureLine := by
  intro address other h
  have hlines := congrArg String.toList h
  rw [toList_exposureLine, toList_exposureLine] at hlines
  exact String.toList_inj.mp (List.append_cancel_right (List.append_cancel_left hlines))

end Command

/-- Whether an entry is neither a warning about an address nor the opening of a listener. -/
def Entry.isAside : Entry → Bool
  | .display (.line text) => !Command.exposureMark.toList.isPrefixOf text.toList
  | .traffic (.listening _) => false
  | _ => true

namespace Command

open Cluster Discovery Forward

theorem warnIfReachable_eq (address : Yaml) : warnIfReachable address =
    if !Yaml.same address (.text "localhost") && !Net.isPrivateText address.shown then
      Console.line (exposureLine address.shown)
    else pure () :=
  rfl

theorem isAside_exposureLine (address : String) :
    (Entry.display (.line (exposureLine address))).isAside = false := by
  rw [Entry.isAside, toList_exposureLine, List.isPrefixOf_iff_prefix.mpr (List.prefix_append _ _)]
  rfl

theorem isAside_line {mark text : String} (hmark : mark.toList <+: text.toList)
    (hother : ¬ exposureMark.toList <+: mark.toList ∧ ¬ mark.toList <+: exposureMark.toList) :
    (Entry.display (.line text)).isAside = true := by
  rw [Entry.isAside, isPrefixOf_other hmark hother]
  rfl

/-! ## What goes on aside from warnings and listeners -/

/-- Between two worlds no address was warned about and nobody began to listen. -/
abbrev Aside : World → World → Prop :=
  Wrote fun entry => entry.isAside = true

theorem aside_line (mark : String) {text : String} (hmark : mark.toList <+: text.toList)
    (hother : ¬ exposureMark.toList <+: mark.toList ∧ ¬ mark.toList <+: exposureMark.toList) :
    Keeps Aside (Console.line text) :=
  wrote_line (isAside_line hmark hother)

theorem aside_emptyLine : Keeps Aside (Console.line "") :=
  wrote_line rfl

/-- A warning about something else begins in another way. -/
theorem aside_warning (start : String) {message : String} (hstart : start.toList <+: message.toList)
    (hother : ¬ exposureMark.toList <+: ("[yellow]⚠️  主人，" ++ start).toList ∧
      ¬ ("[yellow]⚠️  主人，" ++ start).toList <+: exposureMark.toList) :
    Keeps Aside (Console.warning message) := by
  refine aside_line ("[yellow]⚠️  主人，" ++ start) ?_ hother
  have hline : s!"[yellow]⚠️  主人，{message}[/yellow]" =
      "[yellow]⚠️  主人，" ++ message ++ "[/yellow]" := rfl
  rw [hline, String.toList_append, String.toList_append, String.toList_append, List.append_assoc]
  exact (List.prefix_append_right_inj _).mpr (hstart.trans (List.prefix_append _ _))

theorem aside_info (message : String) : Keeps Aside (Console.info message) :=
  aside_line "[cyan]" (by simp [toString]) (by decide)

/-! ### Finding the target -/

theorem aside_targeted : Targeted Aside where
  pause _ := wrote_pause rfl
  list _ _ := wrote_listPods rfl
  read _ _ := wrote_readPod rfl
  spinner _ := wrote_spinner rfl
  spinnerStopped := wrote_record rfl
  choose _ _ _ := wrote_choose rfl
  nothingToChoose := aside_line "[yellow]⚠️  主人，没有" (by decide) (by decide)
  nothingRuns shown := aside_warning "命名空间 " (by simp [toString]) (by decide)

theorem aside_resolveTarget (selector : Selector) (interactive : Bool) :
    Keeps Aside (resolveTarget selector interactive) :=
  keeps_resolveTarget aside_targeted selector interactive

/-! ### Forwarding -/

theorem aside_makeJob (pod : Pod) (ports addresses : List String) :
    Keeps Aside (Job.make pod ports addresses) := by
  refine (keeps_need _).bind fun metadata => keeps_get.bind fun v => ?_
  dsimp only
  split
  · exact (wrote_openFile logName).bind fun _ => keeps_pure _
  · exact keeps_throw _

theorem wrote_handled {P : Entry → Prop}
    (haside : ∀ entry : Entry, entry.isAside = true → P entry) :
    Handled (Wrote P) where
  log _ _ := wrote_record (haside _ rfl)
  traffic t ht := wrote_record (haside _ (by cases t <;> first | rfl | exact absurd rfl (ht _)))
  makeSocket := wrote_makeSocket
  takeSocket := wrote_takeSocket
  closeSocket := wrote_closeSocket
  listen := wrote_listen
  nextArrival := wrote_nextArrival

theorem aside_served : Served Aside where
  toHandled := wrote_handled fun _ haside => haside
  tunnel _ _ _ := wrote_request rfl
  read _ _ := wrote_readPod rfl

theorem aside_reportForwarding (podName : String) (addresses : List String) (ports : List Port) :
    Keeps Aside (reportForwarding podName addresses ports) := by
  refine aside_emptyLine.bind fun _ => ?_
  refine (keeps_forM fun port _ => aside_info _).bind fun _ => ?_
  exact aside_line "[dim]" (by decide) (by decide)

theorem aside_waitForEnd (job : Job) (f : Forwarder) (addresses : List String) :
    Keeps Aside (waitForEnd job f addresses) := by
  refine (aside_reportForwarding _ _ _).attempt.bind fun reported => ?_
  split
  · refine (keeps_step aside_served _ _ _).bind fun seen => ?_
    split
    · exact keeps_throw _
    · exact keeps_throw _
  · refine (aside_info _).bind fun _ => (keeps_step aside_served _ _ _).bind fun _ => ?_
    exact aside_line "[dim]" (by decide) (by decide)
  · exact (keeps_step aside_served _ _ _).bind fun _ => keeps_throw _

/-! ## Warnings -/

section Warnings

variable {addresses : List Yaml} {address : Yaml} {w w' : World}

/-- Whether an entry is the warning about one of some addresses. -/
def Warns (addresses : List Yaml) (entry : Entry) : Prop :=
  ∃ address ∈ addresses, Exposed address ∧
    entry = .display (.line (exposureLine address.shown))

theorem exposed_iff : Exposed address ↔
    (!Yaml.same address (.text "localhost") && !Net.isPrivateText address.shown) = true := by
  have hsame : Yaml.same address (.text "localhost") = true ↔ address = .text "localhost" :=
    ⟨Yaml.eq_text_of_same, fun h => by rw [h]; rfl⟩
  rw [Bool.and_eq_true, Bool.not_eq_true', Bool.not_eq_true', ← Bool.not_eq_true,
    ← Bool.not_eq_true, hsame, Net.isPrivateText_iff, Exposed]

theorem warns_warnIfReachable (hmem : address ∈ addresses) :
    Keeps (Wrote (Warns addresses)) (warnIfReachable address) := by
  rw [warnIfReachable_eq]
  split
  · exact wrote_line ⟨address, hmem, exposed_iff.mpr ‹_›, rfl⟩
  · exact keeps_pure _

/-- An address that is exposed was warned about once its turn is over. -/
theorem warned_of_ok (hexposed : Exposed address)
    (h : warnIfReachable address w = (.ok (), w')) :
    .display (.line (exposureLine address.shown)) ∈ entriesSince w w' := by
  rw [warnIfReachable_eq, if_pos (exposed_iff.mp hexposed)] at h
  rw [line_eq_ok h, entriesSince_eq (journal_noted w _)]
  exact List.mem_cons_self

/-- Once all warnings are out, every address that is exposed was warned about. -/
theorem all_warned_of_ok (h : addresses.forM warnIfReachable w = (.ok ⟨⟩, w'))
    (hmem : address ∈ addresses) (hexposed : Exposed address) :
    .display (.line (exposureLine address.shown)) ∈ entriesSince w w' := by
  induction addresses generalizing w with
  | nil => cases hmem
  | cons first rest ih =>
      obtain ⟨_, v, hfirst, hrest⟩ := bind_eq_ok h
      have hgrown : w.Grew v :=
        ((warns_warnIfReachable (List.mem_cons_self (l := rest))).of_run hfirst).grew
      have hgrown' : v.Grew w' :=
        ((keeps_forM fun a ha => warns_warnIfReachable ha).of_run hrest).grew
      rw [entriesSince_trans hgrown hgrown', List.mem_append]
      rcases List.mem_cons.mp hmem with rfl | hmem
      · exact Or.inl (warned_of_ok hexposed hfirst)
      · exact Or.inr (ih hrest hmem)

end Warnings

/-! ## Listeners -/

/-- Whether an entry is aside from all this or the opening of a listener on one of some
addresses. -/
def Opens (addresses : List String) (entry : Entry) : Prop :=
  entry.isAside = true ∨
    ∃ address ∈ addresses, ∃ n, entry = .traffic (.listening (endpoint address n))

theorem opens_start (job : Job) : Keeps (Wrote (Opens job.addresses)) (start job) :=
  keeps_start (wrote_handled fun _ haside => Or.inl haside)
    fun address hmem n => wrote_record (Or.inr ⟨address, hmem, n, rfl⟩)

/-! ## Runs -/

section Runs

variable {selector : Selector} {ports : List String} {addresses : List Yaml} {w : World}
  {before later : List Entry}

/-- What a run wrote down while it found its target, while it warned and afterwards. Either nobody
listened at all, or all warnings were out before. -/
structure Phases (addresses : List Yaml) (found warned opened : List Entry) : Prop where
  aside : ∀ entry ∈ found, entry.isAside = true
  warnings : ∀ entry ∈ warned, Warns addresses entry
  listeners : (∀ entry ∈ opened, entry.isAside = true) ∨ ∃ texts,
    addressTexts? addresses = some texts ∧
      (∀ address ∈ addresses, Exposed address →
        .display (.line (exposureLine address.shown)) ∈ warned) ∧
      ∀ entry ∈ opened, Opens (resolveAddresses texts) entry

/-- Once its job is made, a run listens only on the addresses of the job. -/
theorem opens_forwarding (job : Job) (texts : List String) :
    Keeps (Wrote (Opens job.addresses)) (do
      let f ← start job
      match f.ending with
      | some (.failed failure) => fail failure
      | some (.mistaken mistake) => throw (.mistake mistake)
      | _ => do
        let served ← follow job f (Schedule.serial (← get).network f.listeners)
        waitForEnd job served texts) := by
  have haside {α : Type} {action : Run α} (h : Keeps Aside action) :
      Keeps (Wrote (Opens job.addresses)) action := fun w => (h w).mono fun _ => Or.inl
  refine (opens_start job).bind fun f => ?_
  split
  · exact keeps_throw _
  · exact keeps_throw _
  · refine keeps_get.bind fun v => ?_
    refine (haside (keeps_follow aside_served job f _)).bind fun served => ?_
    exact haside (aside_waitForEnd job served texts)

theorem forwardPorts_phases (selector : Selector) (ports : List String) (addresses : List Yaml)
    (w : World) : ∃ found warned opened,
      entriesSince w (forwardPorts selector ports addresses w).2 = found ++ warned ++ opened ∧
        Phases addresses found warned opened := by
  unfold forwardPorts
  -- every part either ends the run or hands its world on to the next one
  rcases hfound : resolveTarget selector true w with ⟨halt | _ | ⟨pod, container⟩, w₁⟩ <;>
    have htarget := (aside_resolveTarget selector true).of_run hfound
  · rw [bind_of_error hfound]
    exact ⟨entriesSince w w₁, [], [], by simp, htarget.of_mem, by simp, Or.inl (by simp)⟩
  · rw [bind_of_ok hfound]
    exact ⟨entriesSince w w₁, [], [], by simp; rfl, htarget.of_mem, by simp, Or.inl (by simp)⟩
  · rw [bind_of_ok hfound]
    dsimp only
    rcases hwarned : addresses.forM warnIfReachable w₁ with ⟨halt | _, w₂⟩ <;>
      have hwarnings := (keeps_forM fun a ha => warns_warnIfReachable ha).of_run hwarned
    · rw [bind_of_error hwarned]
      refine ⟨entriesSince w w₁, entriesSince w₁ w₂, [], ?_, htarget.of_mem, hwarnings.of_mem,
        Or.inl (by simp)⟩
      rw [List.append_nil, entriesSince_trans htarget.grew hwarnings.grew]
    · rw [bind_of_ok hwarned]
      have hphases {P : Entry → Prop} {w₃ : World} (h : Wrote P w₂ w₃) :
          entriesSince w w₃ = entriesSince w w₁ ++ entriesSince w₁ w₂ ++ entriesSince w₂ w₃ := by
        rw [← entriesSince_trans htarget.grew hwarnings.grew,
          entriesSince_trans (htarget.grew.trans hwarnings.grew) h.grew]
      have hmade := aside_makeJob pod ports ((addressTexts? addresses).getD [])
      rcases hjob : Job.make pod ports ((addressTexts? addresses).getD []) w₂ with
        ⟨halt | job, w₃⟩ <;> have haside := hmade.of_run hjob
      · rw [bind_of_error hjob]
        exact ⟨_, _, _, hphases haside, htarget.of_mem, hwarnings.of_mem, Or.inl haside.of_mem⟩
      · rw [bind_of_ok hjob]
        cases htexts : addressTexts? addresses with
        | none =>
            have hreleased : Keeps Aside
                (do release job default; throw (.mistake .wrongKind) : Run Unit) :=
              (keeps_release aside_served.toHandled job default).bind fun _ => keeps_throw _
            have hrest := haside.trans (hreleased w₃)
            exact ⟨_, _, _, hphases hrest, htarget.of_mem, hwarnings.of_mem, Or.inl hrest.of_mem⟩
        | some texts =>
            have haddresses := makeJob_addresses hjob
            rw [htexts, Option.getD_some] at haddresses
            have hopened := opens_forwarding job texts
            rw [haddresses] at hopened
            have hrest := (haside.mono fun _ => Or.inl).trans (hopened w₃)
            exact ⟨_, _, _, hphases hrest, htarget.of_mem, hwarnings.of_mem,
              Or.inr ⟨texts, htexts, fun _ => all_warned_of_ok hwarned, hrest.of_mem⟩⟩

/-- What is not in the first part of a list stands in the second. -/
theorem split_of_not_mem {first second : List Entry} {entry : Entry} (hnot : entry ∉ first)
    (h : first ++ second = before ++ entry :: later) :
    ∃ middle, before = first ++ middle ∧ second = middle ++ entry :: later := by
  rcases List.append_eq_append_iff.mp h with ⟨middle, hbefore, hsecond⟩ | ⟨rest, hfirst, hsecond⟩
  · exact ⟨middle, hbefore, hsecond⟩
  · cases rest with
    | nil => exact ⟨[], by simpa using hfirst.symm, hsecond.symm⟩
    | cons other rest =>
        obtain ⟨rfl, -⟩ := List.cons.inj hsecond
        exact absurd (by simp [hfirst]) hnot

theorem unreachable_loopback {address : String} (h : address ∈ ["127.0.0.1", "::1"]) :
    Net.Unreachable address := by
  have hall : ∀ address ∈ ["127.0.0.1", "::1"], Net.isPrivateText address = true := by decide
  exact Net.isPrivateText_iff.mp (hall address h)

theorem mem_of_mem_addressTexts {texts : List String} (h : addressTexts? addresses = some texts)
    {text : String} (hmem : text ∈ texts) : .text text ∈ addresses := by
  have hread := List.mem_map_of_mem (f := some) hmem
  rw [← Outcome.map_eq_of_mapM h] at hread
  obtain ⟨address, haddress, htext⟩ := List.mem_map.mp hread
  cases address <;> cases htext
  exact haddress

variable {found warned opened : List Entry} {place : String}

/-- A listener is opened only after the warnings, on one of the addresses that the given ones stand
for. -/
theorem Phases.split_listening (h : Phases addresses found warned opened)
    (hsplit : found ++ warned ++ opened = before ++ .traffic (.listening place) :: later) :
    ∃ texts, addressTexts? addresses = some texts ∧
      (∀ address ∈ addresses, Exposed address →
        .display (.line (exposureLine address.shown)) ∈ before) ∧
      ∃ address ∈ resolveAddresses texts, ∃ n, place = endpoint address n := by
  have hnot : .traffic (.listening place) ∉ found ++ warned := by
    intro hmem
    rcases List.mem_append.mp hmem with hmem | hmem
    · exact absurd (h.aside _ hmem) Bool.false_ne_true
    · obtain ⟨address, -, -, hline⟩ := h.warnings _ hmem
      cases hline
  obtain ⟨middle, rfl, hopened⟩ := split_of_not_mem hnot hsplit
  have hmem : .traffic (.listening place) ∈ opened := by simp [hopened]
  rcases h.listeners with haside | ⟨texts, htexts, hwarned, hopens⟩
  · exact absurd (haside _ hmem) Bool.false_ne_true
  · rcases hopens _ hmem with haside | ⟨address, haddress, n, hplace⟩
    · exact absurd haside Bool.false_ne_true
    · refine ⟨texts, htexts, fun a ha hexposed => ?_, address, haddress, n, by cases hplace; rfl⟩
      simp [hwarned a ha hexposed]

/-- An exposed address that a listener is opened on was warned about before. -/
theorem Phases.warned_before {address : String} {n : Nat}
    (h : Phases addresses found warned opened)
    (hsplit : found ++ warned ++ opened =
      before ++ .traffic (.listening (endpoint address n)) :: later)
    (hreachable : ¬ Net.Unreachable address) :
    .display (.line (exposureLine address)) ∈ before := by
  obtain ⟨texts, htexts, hwarned, other, hother, m, hplace⟩ := h.split_listening hsplit
  obtain rfl := endpoint_injective hplace
  rcases mem_resolveAddresses.mp hother with ⟨hmem, hne⟩ | ⟨-, hloopback⟩
  · exact hwarned (.text address) (mem_of_mem_addressTexts htexts hmem)
      ⟨fun hlocal => hne (Yaml.text.inj hlocal), hreachable⟩
  · exact absurd (unreachable_loopback hloopback) hreachable

/-- A warning is about an exposed address. -/
theorem Phases.exposed_of_warning {text : String} (h : Phases addresses found warned opened)
    (hmem : .display (.line (exposureLine text)) ∈ found ++ warned ++ opened) :
    ∃ address ∈ addresses, address.shown = text ∧ Exposed address := by
  have hwarning {entries : List Entry} (haside : ∀ entry ∈ entries, entry.isAside = true) :
      .display (.line (exposureLine text)) ∉ entries := fun hmem =>
    absurd (haside _ hmem) (by simp [isAside_exposureLine])
  simp only [List.mem_append, or_assoc] at hmem
  rcases hmem with hfound | hwarned | hopened
  · exact absurd hfound (hwarning h.aside)
  · obtain ⟨address, haddress, hexposed, hline⟩ := h.warnings _ hwarned
    refine ⟨address, haddress, exposureLine_injective ?_, hexposed⟩
    exact (Display.line.inj (Entry.display.inj hline)).symm
  · rcases h.listeners with haside | ⟨texts, -, -, hopens⟩
    · exact absurd hopened (hwarning haside)
    · rcases hopens _ hopened with haside | ⟨_, -, _, hlisten⟩
      · exact absurd haside (by simp [isAside_exposureLine])
      · cases hlisten

end Runs

/-- **Warnings about exposure.** Whether a text is judged to be out of reach is a matter of the
address that it denotes. Whatever addresses ports are forwarded on, a listener on an address that
can be reached from outside is opened after the warning about it, and no warning is about this
machine or an address that cannot be reached. -/
theorem exposure_law :
    (∀ text, Net.isPrivateText text = true ↔ Net.Unreachable text) ∧
    (∀ text address, Net.Denotes text address → address.Fits ∧
      (∀ other, Net.Denotes text other → other = address) ∧
      ∀ spelling, Net.Denotes spelling address →
        Net.isPrivateText spelling = Net.isPrivateText text) ∧
    ∀ selector ports addresses w,
      let entries := entriesSince w (forwardPorts selector ports addresses w).2
      (∀ before place later, entries = before ++ .traffic (.listening place) :: later →
        (∃ address n, place = endpoint address n) ∧
        ∀ address n, place = endpoint address n → ¬ Net.Unreachable address →
          .display (.line (exposureLine address)) ∈ before) ∧
      ∀ text, .display (.line (exposureLine text)) ∈ entries →
        ∃ address ∈ addresses, address.shown = text ∧ Exposed address := by
  have hverdict {text : String} {address : Net.Address} (h : Net.Denotes text address) :
      Net.isPrivateText text = true ↔ address.Inside := by
    rw [Net.isPrivateText_iff]
    exact ⟨fun ⟨other, hother, hinside⟩ => hother.unique h ▸ hinside,
      fun hinside => ⟨_, h, hinside⟩⟩
  refine ⟨fun text => Net.isPrivateText_iff, fun text address h => ⟨h.fits, ?_, ?_⟩, ?_⟩
  · exact fun other hother => hother.unique h
  · exact fun spelling hspelling =>
      Bool.eq_iff_iff.mpr ((hverdict hspelling).trans (hverdict h).symm)
  · intro selector ports addresses w entries
    obtain ⟨found, warned, opened, hentries, hphases⟩ :=
      forwardPorts_phases selector ports addresses w
    refine ⟨fun before place later hsplit => ?_, fun text hmem => ?_⟩
    · rw [show entries = found ++ warned ++ opened from hentries] at hsplit
      obtain ⟨_, -, -, address, -, n, hplace⟩ := hphases.split_listening hsplit
      refine ⟨⟨address, n, hplace⟩, ?_⟩
      rintro other m rfl hreachable
      exact hphases.warned_before hsplit hreachable
    · rw [show entries = found ++ warned ++ opened from hentries] at hmem
      exact hphases.exposed_of_warning hmem

/-- Whether an entry is the opening of a listener on a place. -/
def opensOn (place : String) : Entry → Bool
  | .traffic (.listening opened) => opened == place
  | _ => false

theorem eq_of_opensOn {place : String} {entry : Entry} (h : opensOn place entry = true) :
    entry = .traffic (.listening place) := by
  unfold opensOn at h
  split at h
  · rw [beq_iff_eq.mp h]
  · cases h

/-- Ports are forwarded on all addresses of this machine, and there is a warning about that before
anybody listens. The same loopback address is out of reach in both of its spellings. -/
theorem exposure_law_everywhere :
    let pod : Pod :=
      { metadata := some ⟨some "web-0", some "default", [], none, false⟩
        spec := some ⟨[⟨some "main", some "web:1", true, true⟩], 0⟩
        status := some ⟨some "Running", none, [], []⟩ }
    let w := { World.empty with cluster := { Cluster.empty with pods := [pod] } }
    let selector := { Selector.any with podName := some "web-0" }
    let entries := entriesSince w (forwardPorts selector ["8080"] [.text "0.0.0.0"] w).2
    (∃ before later, entries = before ++ .traffic (.listening "0.0.0.0:8080") :: later ∧
      .display (.line (exposureLine "0.0.0.0")) ∈ before) ∧
    Net.isPrivateText "[::1%lo]" = true ∧
    Net.isPrivateText "0:0::0.0.0.1" = Net.isPrivateText "[::1%lo]" := by
  intro pod w selector entries
  obtain ⟨hverdict, hspelling, hruns⟩ := exposure_law
  have hlistens : entries.any (opensOn "0.0.0.0:8080") = true := by decide +kernel
  obtain ⟨entry, hmem, hopens⟩ := List.any_eq_true.mp hlistens
  rw [eq_of_opensOn hopens] at hmem
  obtain ⟨before, later, hsplit⟩ := List.append_of_mem hmem
  have hreachable : ¬ Net.Unreachable "0.0.0.0" := by
    rw [← hverdict]
    decide
  have hdenotes {text : String}
      (h : Net.readAddress? (Text.trimBoth (fun c => c == '[' || c == ']') text.toList) =
        some (.v6 1)) : Net.Denotes text (.v6 1) :=
    Net.denotes_iff.mpr (Net.readAddress?_eq_some_iff.mp h)
  have hscoped : Net.Denotes "[::1%lo]" (.v6 1) := hdenotes (by decide)
  have hlong : Net.Denotes "0:0::0.0.0.1" (.v6 1) := hdenotes (by decide)
  refine ⟨⟨before, later, hsplit, ?_⟩, (hverdict _).mpr ⟨_, hscoped, Or.inl rfl⟩,
    (hspelling _ _ hscoped).2.2 _ hlong⟩
  exact ((hruns selector ["8080"] [.text "0.0.0.0"] w).1 before _ later hsplit).2 "0.0.0.0" 8080
    (by decide) hreachable

end Command

end PodReach
