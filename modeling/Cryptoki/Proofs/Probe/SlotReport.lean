import Cryptoki.Proofs.Host.Issued
import Cryptoki.Proofs.Module.Running
import Cryptoki.Proofs.Probe.Selection

/-!
The report on the slots of a library.

The slots are listed. Then each of them in turn is opened, asked about and closed again before the
next one is looked at. A step of this loop adds the lines on its slot and leaves the registry as it
was, so the loop does, however many slots there are.
-/

namespace Cryptoki

open Process Program

namespace Probe

open Host

variable {α σ : Type} {env : Environment σ} {w : World σ} {held : List Module} {h s : Handle}
  {m : Module} {id : SlotId} {i : SlotInfo} {t : Option TokenInfo} {p q : Process}

/-- What is said of a token, or that there is none. -/
def tokenText : Option TokenInfo → String
  | some told => tokenLine told
  | none => "  No token"

/-- The lines on a slot: what is told of it, and what is told of its token. -/
def slotLines (i : SlotInfo) (t : Option TokenInfo) : Report := [slotLine i, tokenText t]

/-! ### A slot that is opened and closed -/

/-- The library tells this of a slot and its token, and is not changed by that. -/
structure Shows (env : Environment σ) (m : Module) (outside : σ) (id : SlotId) (i : SlotInfo)
    (t : Option TokenInfo) : Prop where
  slot : ∀ w : World σ, w.outside = outside → (m.slotInfo id).run env w = (.ok i, w)
  present : i.tokenPresent = t.isSome
  token : ∀ told, t = some told → ∀ w : World σ, w.outside = outside →
    (m.tokenInfo id).run env w = (.ok told, w)

/-- There is a module under the handle, and one more slot can be registered, in a new entry or in
one that was vacated. -/
structure Serving (held : List Module) (h : Handle) (m : Module) (p : Process) : Prop where
  accounted : Accounted p held
  module : p.modules.find? h = some m
  room : ∀ k, (p.slots.insert k).2.entries.size ≤ Handle.Table.capacity

lemma Serving.same (hp : Serving held h m p) (hsame : Same p q) : Serving held h m q where
  accounted := hp.accounted.books hsame.books
  module := by
    rw [hsame.modules]
    exact hp.module
  room := by
    rw [hsame.slots]
    exact hp.room

/-- An operation on the module does what its effect does. -/
lemma Serving.agree (env : Environment σ) (hw : Serving held h m w.process) (o : ModuleOp) :
    (o.program h).Agree env Same (o.effect h m) w w :=
  o.agree hw.module (hw.accounted.alive hw.module)

/-- An operation on a slot of the module does what its effect does. -/
lemma AtSlot.agree (env : Environment σ) (hw : AtSlot held h s m id w.process) (o : SlotOp) :
    (o.program h s).Agree env Same (o.effect s m id) w w :=
  o.agree hw.module (hw.accounted.alive hw.module) hw.slot

/-- The slot of the module is registered under a new handle, and nothing else is changed. -/
lemma Serving.openSlot (hw : Serving held h m w.process) (hshows : Shows env m w.outside id i t) :
    ∃ s v, (Host.openSlot h id).run env w = (.ok s, v) ∧ v.outside = w.outside ∧
      Accounted v.process held ∧ Issues h id w.process s v.process := by
  have hagree := hw.agree env (.openSlot id)
  have heffect : ((ModuleOp.openSlot id).effect h m).run env w =
      (.ok ((register h id).run env w).1, ((register h id).run env w).2) := by
    rw [ModuleOp.effect, run_bind, hshows.slot w rfl]
    rfl
  have hanswer := hagree.answer
  have hworld := hagree.world
  rw [heffect] at hanswer hworld
  exact ⟨_, ((Host.openSlot h id).run env w).2, Prod.ext hanswer rfl, hworld.outside,
    accounted_moduleOp h (.openSlot id) hw.accounted,
    (issues_register env hw.accounted h id).same hworld.process.symm⟩

/-- An operation on the slot that only looks answers what is told. -/
lemma AtSlot.look (hw : AtSlot held h s m id w.process) (o : SlotOp) {a : o.Answer}
    (heffect : (o.effect s m id).run env w = (.ok a, w)) :
    ∃ v, (o.program h s).run env w = (.ok a, v) ∧ v.outside = w.outside ∧
      Same w.process v.process := by
  have hagree := hw.agree env o
  have hanswer := hagree.answer
  have hworld := hagree.world
  rw [heffect] at hanswer hworld
  exact ⟨((o.program h s).run env w).2, Prod.ext hanswer rfl, hworld.outside,
    hworld.process.symm⟩

lemma AtSlot.tokenOf (hw : AtSlot held h s m id w.process)
    (hshows : Shows env m w.outside id i t) :
    ∃ v, (Probe.tokenOf h s i).run env w = (.ok (tokenText t), v) ∧ v.outside = w.outside ∧
      Same w.process v.process := by
  rw [Probe.tokenOf, hshows.present]
  cases t with
  | none => exact ⟨w, rfl, rfl, Same.refl _⟩
  | some told =>
    obtain ⟨v, hrun, hout, hsame⟩ := hw.look .tokenInfo (hshows.token told rfl w rfl)
    refine ⟨v, ?_, hout, hsame⟩
    have htold : (Host.tokenInfo h s).run env w = (.ok told, v) := hrun
    rw [if_pos Option.isSome_some, attempt, run_bind, htold]
    rfl

lemma AtSlot.closeSlot (env : Environment σ) (hw : AtSlot held h s m id w.process) :
    ∃ v, (Host.closeSlot h s).run env w = (.ok (), v) ∧ v.outside = w.outside ∧
      Accounted v.process held ∧
      Same { w.process with slots := (w.process.slots.remove s).2 } v.process := by
  have hagree := hw.agree env .close
  exact ⟨((Host.closeSlot h s).run env w).2, Prod.ext hagree.answer rfl, hagree.world.outside,
    accounted_slotOp h s .close hw.accounted, hagree.world.process.symm⟩

/-- A slot that was registered is one of the module. -/
lemma Serving.issues (hp : Serving held h m p) (hq : Accounted q held)
    (hissues : Issues h id p s q) : AtSlot held h s m id q where
  accounted := hq
  module := by
    rw [hissues.rest.modules]
    exact hp.module
  slot := by
    have hslots : q.slots = (p.slots.insert ⟨id, h⟩).2 := congrArg Prod.snd hissues.registered
    rw [hissues.bound (hslots ▸ hp.room _), if_pos rfl]

/-- Closing the slot that was opened last puts things back. -/
lemma Serving.closed {r : Process} (hp : Serving held h m p) (hq : AtSlot held h s m id q)
    (hissues : Issues h id p s q) (hr : Accounted r held)
    (hsame : Same { q with slots := (q.slots.remove s).2 } r) :
    Serving held h m r ∧ ∀ k, r.slots.find? k = p.slots.find? k := by
  have hs : s = (p.slots.insert ⟨id, h⟩).1 := congrArg Prod.fst hissues.registered
  have hslots : q.slots = (p.slots.insert ⟨id, h⟩).2 := congrArg Prod.snd hissues.registered
  have hleft : r.slots = (q.slots.remove s).2 := hsame.slots
  refine ⟨⟨hr, ?_, fun k => ?_⟩, fun k => ?_⟩
  · rw [hsame.modules]
    exact hq.module
  · rw [hleft, Handle.Table.size_insert_remove hq.slot, hslots]
    exact hp.room _
  · rw [hleft, hslots, hs]
    exact hp.accounted.slots.sound.find?_insert_remove _ (hp.room _) k

/-! ### The loop -/

/-- The program answers these lines. It is issued so many handles for slots, none of which meant
anything before, and in the end each handle finds what it found before. -/
structure Reports (env : Environment σ) (held : List Module) (h : Handle) (m : Module)
    (w : World σ) (p : Program (Except Failure Report)) (lines : Report) (slots : ℕ) : Prop where
  answer : (p.run env w).1 = .ok lines
  outside : (p.run env w).2.outside = w.outside
  serving : Serving held h m (p.run env w).2.process
  restored : ∀ k, (p.run env w).2.process.slots.find? k = w.process.slots.find? k
  unknown : ∀ s ∈ p.issued env w, w.process.slots.find? s = none
  once : (p.issued env w).length = slots

lemma issuesNothing_attempt {β γ : Type} {p : Program (Except Fault β)}
    {next : β → Program (Except Failure γ)} (hp : p.IssuesNothing)
    (hnext : ∀ b, (next b).IssuesNothing) : (attempt p next).IssuesNothing := by
  refine within_bind hp fun r => ?_
  rcases r with f | b
  · exact within_pure _
  · exact hnext b

/-- Once a slot is open, no other is opened until it is closed. -/
lemma issuesNothing_afterOpening (h s : Handle) :
    IssuesNothing (attempt (Host.slotInfo h s) fun i => do
      match ← Probe.tokenOf h s i with
      | .error f => return .error f
      | .ok token =>
        attempt (Host.closeSlot h s) fun _ => return .ok [slotLine i, token]) := by
  refine issuesNothing_attempt (issuesNothing_slotInfo h s) fun i => within_bind ?_ fun token => ?_
  · rw [Probe.tokenOf]
    split_ifs
    · exact issuesNothing_attempt (issuesNothing_tokenInfo h s) fun _ => within_pure _
    · exact within_pure _
  · rcases token with f | token
    · exact within_pure _
    · exact issuesNothing_attempt (issuesNothing_closeSlot h s) fun _ => within_pure _

/-- **One slot.** -/
lemma Serving.describeSlot (hw : Serving held h m w.process)
    (hshows : Shows env m w.outside id i t) :
    Reports env held h m w (Probe.describeSlot h id) (slotLines i t) 1 := by
  obtain ⟨s, w₁, hopen, hout₁, haccounted₁, hissues⟩ := hw.openSlot hshows
  have hat₁ : AtSlot held h s m id w₁.process := hw.issues haccounted₁ hissues
  rw [← hout₁] at hshows
  obtain ⟨w₂, hinfo, hout₂, hsame₂⟩ := hat₁.look .slotInfo (hshows.slot w₁ rfl)
  have hat₂ : AtSlot held h s m id w₂.process := hat₁.same hsame₂
  rw [← hout₂] at hshows
  obtain ⟨w₃, htoken, hout₃, hsame₃⟩ := hat₂.tokenOf hshows
  have hsame : Same w₁.process w₃.process := hsame₂.trans hsame₃
  obtain ⟨w₄, hclose, hout₄, haccounted₄, hsame₄⟩ := (hat₂.same hsame₃).closeSlot env
  have hissues₃ : Issues h id w.process s w₃.process := hissues.same hsame
  obtain ⟨hserving, hrestored⟩ :=
    hw.closed (hat₂.same hsame₃) hissues₃ haccounted₄ hsame₄
  have hrun : (Probe.describeSlot h id).run env w = (.ok (slotLines i t), w₄) := by
    have hinfo : (Host.slotInfo h s).run env w₁ = (.ok i, w₂) := hinfo
    rw [Probe.describeSlot, attempt, run_bind, hopen]
    dsimp only
    rw [attempt, run_bind, hinfo]
    dsimp only
    rw [run_bind, htoken]
    dsimp only
    rw [attempt, run_bind, hclose]
    rfl
  have hissued : (Probe.describeSlot h id).issued env w = [s] := by
    rw [Probe.describeSlot, attempt, issued_bind, issued_openSlot (congrArg Prod.fst hopen), hopen]
    exact congrArg (s :: ·) (issuesNothing_afterOpening h s).issued_eq_nil
  refine ⟨?_, ?_, ?_, ?_, ?_, ?_⟩
  · rw [hrun]
  · rw [hrun]
    exact hout₄.trans (hout₃.trans (hout₂.trans hout₁))
  · rw [hrun]
    exact hserving
  · rw [hrun]
    exact hrestored
  · rw [hissued, List.forall_mem_singleton]
    have hslots : w₁.process.slots = (w.process.slots.insert ⟨id, h⟩).2 :=
      congrArg Prod.snd hissues.registered
    exact hissues.unknown (hslots ▸ hw.room _)
  · rw [hissued]
    rfl

lemma Serving.reports_nil (hw : Serving held h m w.process) :
    Reports env held h m w (pure (.ok [])) [] 0 :=
  ⟨rfl, rfl, hw, fun _ => rfl, List.forall_mem_nil _, rfl⟩

/-- **All slots**, in their order. -/
lemma Serving.describeSlots (hw : Serving held h m w.process) (slots : List α) (id : α → SlotId)
    (info : α → SlotInfo) (token : α → Option TokenInfo)
    (hshows : ∀ a ∈ slots, Shows env m w.outside (id a) (info a) (token a)) :
    Reports env held h m w (Probe.describeSlots h (slots.map id))
      (slots.flatMap fun a => slotLines (info a) (token a)) slots.length := by
  -- A step leaves the outside and all that handles find as they were, so what was shown at first
  -- is shown to the rest of the loop.
  induction slots generalizing w with
  | nil => exact hw.reports_nil
  | cons a slots ih =>
    obtain ⟨hfirst, hrest⟩ := List.forall_mem_cons.mp hshows
    have hone := hw.describeSlot hfirst
    rw [← hone.outside] at hrest
    have hmore := ih hone.serving hrest
    have hrun : (Probe.describeSlots h ((a :: slots).map id)).run env w =
        (.ok ((a :: slots).flatMap fun a => slotLines (info a) (token a)),
          ((Probe.describeSlots h (slots.map id)).run env
            ((Probe.describeSlot h (id a)).run env w).2).2) := by
      rw [List.map_cons, Probe.describeSlots, run_bind, hone.answer]
      dsimp only
      rw [run_bind, hmore.answer, List.flatMap_cons]
      rfl
    have hissued : (Probe.describeSlots h ((a :: slots).map id)).issued env w =
        (Probe.describeSlot h (id a)).issued env w ++
          (Probe.describeSlots h (slots.map id)).issued env
            ((Probe.describeSlot h (id a)).run env w).2 := by
      rw [List.map_cons, Probe.describeSlots, issued_bind, hone.answer]
      dsimp only
      rw [issued_bind, hmore.answer]
      exact congrArg _ (List.append_nil _)
    refine ⟨?_, ?_, ?_, ?_, ?_, ?_⟩
    · rw [hrun]
    · rw [hrun]
      exact hmore.outside.trans hone.outside
    · rw [hrun]
      exact hmore.serving
    · rw [hrun]
      exact fun k => (hmore.restored k).trans (hone.restored k)
    · rw [hissued, List.forall_mem_append]
      refine ⟨hone.unknown, fun s hs => ?_⟩
      rw [← hone.restored]
      exact hmore.unknown s hs
    · rw [hissued, List.length_append, hone.once, hmore.once, List.length_cons, Nat.add_comm]

/-- Handles that were issued on the way are not live in the end. -/
lemma Reports.gone {p : Program (Except Failure Report)} {lines : Report} {n : ℕ}
    (hp : Reports env held h m w p lines n) :
    ∀ s ∈ p.issued env w, (p.run env w).2.process.slots.find? s = none := by
  intro s hs
  rw [hp.restored]
  exact hp.unknown s hs

/-- The slots are listed, and then reported on as the library shows them after that. -/
lemma Serving.slots (hw : Serving held h m w.process) {tokenPresent : Bool} (slots : List α)
    (id : α → SlotId) (info : α → SlotInfo) (token : α → Option TokenInfo) {v : World σ}
    (hlist : (m.slotList tokenPresent).run env w = (.ok (slots.map id), v))
    (hshows : ∀ a ∈ slots, Shows env m v.outside (id a) (info a) (token a)) :
    ((Probe.slots h tokenPresent).run env w).1 =
        .ok (slots.flatMap fun a => slotLines (info a) (token a)) ∧
      (∀ k, ((Probe.slots h tokenPresent).run env w).2.process.slots.find? k =
        w.process.slots.find? k) ∧
      ((Probe.slots h tokenPresent).issued env w).length = slots.length ∧
      ∀ s ∈ (Probe.slots h tokenPresent).issued env w,
        ((Probe.slots h tokenPresent).run env w).2.process.slots.find? s = none := by
  have hagree := hw.agree env (.slotList tokenPresent)
  have hprocess := (m.looks_slotList tokenPresent).run_process env w
  have hanswer := hagree.answer
  have hworld := hagree.world
  rw [ModuleOp.effect, hlist] at hanswer hworld
  rw [hlist] at hprocess
  have hlisted : (Host.slotList h tokenPresent).run env w =
      (.ok (slots.map id), ((Host.slotList h tokenPresent).run env w).2) := Prod.ext hanswer rfl
  have hsame : Same w.process ((Host.slotList h tokenPresent).run env w).2.process :=
    hprocess ▸ hworld.process.symm
  rw [← hworld.outside] at hshows
  have hloop := (hw.same hsame).describeSlots slots id info token hshows
  have hrun : (Probe.slots h tokenPresent).run env w =
      (Probe.describeSlots h (slots.map id)).run env
        ((Host.slotList h tokenPresent).run env w).2 := by
    rw [Probe.slots, attempt, run_bind, hlisted]
  have hissued : (Probe.slots h tokenPresent).issued env w =
      (Probe.describeSlots h (slots.map id)).issued env
        ((Host.slotList h tokenPresent).run env w).2 := by
    rw [Probe.slots, attempt, issued_bind,
      (issuesNothing_slotList h tokenPresent).issued_eq_nil, hlisted]
    rfl
  rw [hrun, hissued]
  refine ⟨hloop.answer, fun k => ?_, hloop.once, hloop.gone⟩
  rw [hloop.restored, hsame.slots]

end Probe

/-! ### The library in memory -/

namespace Simulated

/-- What is told of a slot. -/
def Place.slotInfo (b : Behaviour) (p : Place) : SlotInfo := .ofRecord p.id (slotRecord b p)

/-- What is told of the token in a slot, if it holds one. -/
def Place.tokenInfo (b : Behaviour) (p : Place) : Option TokenInfo :=
  p.label.map fun label => .ofRecord (tokenRecord b p.id label)

lemma Place.tokenPresent_slotInfo (b : Behaviour) (p : Place) :
    (p.slotInfo b).tokenPresent = (p.tokenInfo b).isSome := by
  rw [Place.tokenInfo, Option.isSome_map]
  show Flags.has (if p.label.isSome then Record.hardwareSlot ||| Record.tokenPresent
    else Record.hardwareSlot) Record.tokenPresent = p.label.isSome
  cases p.label.isSome <;> decide

end Simulated

namespace Module

open Simulated

variable {m : Module} {w : World Timeline} {p : Simulated.Place} {b : Behaviour} {t : Timeline}

lemma run_slotInfo_simulated (hprovided : m.functions.provides .getSlotInfo)
    (hrunning : w.outside.library.running) (hplace : w.outside.library.place? p.id = some p) :
    (m.slotInfo p.id).run environment w = (.ok (p.slotInfo w.outside.library.behaviour), w) := by
  have htold : environment.answer (.call m.id (.getSlotInfo p.id true)) w.outside =
      (⟨.ok, some (slotRecord w.outside.library.behaviour p)⟩, w.outside) := by
    show (getSlotInfo p.id true w.outside.library, w.outside) = _
    simp only [getSlotInfo, hrunning, hplace]
    rfl
  rw [slotInfo, if_pos hprovided, run_bind, run_call, htold]
  rfl

lemma shows_simulated (hslot : m.functions.provides .getSlotInfo)
    (htoken : m.functions.provides .getTokenInfo) (hrunning : t.library.running)
    (hplace : t.library.place? p.id = some p) :
    Probe.Shows environment m t p.id (p.slotInfo t.library.behaviour)
      (p.tokenInfo t.library.behaviour) where
  slot w hw := by
    subst hw
    exact run_slotInfo_simulated hslot hrunning hplace
  present := p.tokenPresent_slotInfo _
  token told htold w hw := by
    subst hw
    obtain ⟨label, hlabel, rfl⟩ := Option.map_eq_some_iff.mp htold
    exact run_tokenInfo_simulated htoken hrunning hlabel hplace

lemma Runs.provides (h : m.Runs b t) :
    m.functions.provides .getSlotList ∧ m.functions.provides .getSlotInfo ∧
      m.functions.provides .getTokenInfo := by
  rw [h.functions]
  exact ⟨rfl, rfl, rfl⟩

/-- Where no two slots have the same number, each is shown as it is. -/
lemma Runs.shows (h : m.Runs b t) (hids : (b.places.map Simulated.Place.id).Nodup)
    (hp : p ∈ b.places) :
    Probe.Shows environment m t p.id (p.slotInfo b) (p.tokenInfo b) := by
  obtain ⟨-, hslot, htoken⟩ := h.provides
  rw [← h.behaviour] at hids hp ⊢
  exact shows_simulated hslot htoken h.running (State.place?_eq hids hp)

/-- To be asked for its slots changes nothing of that. -/
lemma Runs.noteListing (h : m.Runs b t) : m.Runs b t.noteListing :=
  ⟨h.behaviour, h.running, h.functions⟩

end Module

namespace Probe

open Host Simulated

variable {w : World Timeline} {held : List Module} {h : Handle} {m : Module} {b : Behaviour}
  {loader : Loader} {path : String}

/-- Of the slots of a library, those that a list is to have. -/
def listedPlaces (b : Behaviour) (tokenPresent : Bool) : List Simulated.Place :=
  b.places.filter fun p => !tokenPresent || p.label.isSome

/-- The lines on all the slots that are listed. -/
def slotReport (b : Behaviour) (tokenPresent : Bool) : Report :=
  (listedPlaces b tokenPresent).flatMap fun p => slotLines (p.slotInfo b) (p.tokenInfo b)

/-- A module that was loaded can be used. -/
lemma serving_load {v : World Timeline} (hv : Accounted v.process held)
    (hmodules : v.process.modules.entries.size < Handle.Table.capacity)
    (hslots : v.process.slots.entries.size < Handle.Table.capacity)
    (hload : ((load loader path).run environment v).1 = .ok h) :
    ∃ m, Serving held h m ((load loader path).run environment v).2.process ∧
      m.Runs v.outside.library.behaviour ((load loader path).run environment v).2.outside := by
  obtain ⟨m, hmade, hjoined⟩ := joined_load loader path hv hload
  refine ⟨m, ⟨accounted_load loader path hv, hjoined.find hv hmodules, fun k => ?_⟩, ?_⟩
  · rw [hjoined.slots]
    exact Handle.Table.fits_insert hslots k
  · have hruns := Module.runs_load hmade
    rw [load] at hload ⊢
    split_ifs at hload ⊢
    · cases hload
    · rw [run_bind, hmade]
      exact hruns

lemma slots_simulated (hw : Serving held h m w.process) (hruns : m.Runs b w.outside)
    (hids : (b.places.map Place.id).Nodup) (hfits : b.places.length < UInt64.size)
    (tokenPresent : Bool) :
    ((slots h tokenPresent).run environment w).1 = .ok (slotReport b tokenPresent) ∧
      (∀ k, ((slots h tokenPresent).run environment w).2.process.slots.find? k =
        w.process.slots.find? k) ∧
      ((slots h tokenPresent).issued environment w).length =
        (listedPlaces b tokenPresent).length ∧
      ∀ s ∈ (slots h tokenPresent).issued environment w,
        ((slots h tokenPresent).run environment w).2.process.slots.find? s = none := by
  have hlist := m.run_slotList_simulated tokenPresent hruns.provides.1 hruns.running
    (hruns.behaviour ▸ hfits)
  rw [hruns.behaviour] at hlist
  refine hw.slots (listedPlaces b tokenPresent) Place.id (fun p => p.slotInfo b)
    (fun p => p.tokenInfo b) hlist fun p hp => ?_
  exact hruns.noteListing.noteListing.shows hids (List.mem_of_mem_filter hp)

lemma run_slotsCommand {σ : Type} (env : Environment σ) (h : Handle) (settings : Settings)
    (patience : ℕ) (tokenPresent : Bool) (w : World σ) :
    (command h settings patience (.slots tokenPresent)).run env w =
      (some ((slots h tokenPresent).run env w).1, ((slots h tokenPresent).run env w).2) :=
  run_bind env (slots h tokenPresent) (fun r => pure (some r)) w

/-- **Every slot is reported once.** A module is loaded at any time of any library whose slots have
different numbers, as many as a word can count. The report has two lines for each slot that is to be
listed, in the order of the library: what is told of the slot under its number, and then what is
told of the token in it, or that there is none. Each of these slots was given one handle on the way.
None of these handles is live in the end, and all others find what they found before. So a run of
the probe in a new process ends with the report on the slots. -/
theorem slots_report :
    (∀ (start : Timeline) (steps : List (Step Timeline)) (loader : Loader) (path : String)
        (tokenPresent : Bool) (h : Handle),
      let v := ((Site.initial start).after environment steps).world
      let w := ((load loader path).run environment v).2
      let b := v.outside.library.behaviour
      let u := (slots h tokenPresent).run environment w
      let issued := (slots h tokenPresent).issued environment w
      ((load loader path).run environment v).1 = .ok h →
        v.process.modules.entries.size < Handle.Table.capacity →
          v.process.slots.entries.size < Handle.Table.capacity →
            (b.places.map Place.id).Nodup → b.places.length < UInt64.size →
              (∃ m, w.process.modules.find? h = some m ∧ ∀ p ∈ b.places,
                ((m.slotInfo p.id).run environment w).1 = .ok (p.slotInfo b) ∧
                  ∀ t, p.tokenInfo b = some t →
                    ((m.tokenInfo p.id).run environment w).1 = .ok t) ∧
              u.1 = .ok (slotReport b tokenPresent) ∧
              issued.length = (listedPlaces b tokenPresent).length ∧
              (∀ s ∈ issued, u.2.process.slots.find? s = none) ∧
              ∀ k, u.2.process.slots.find? k = w.process.slots.find? k) ∧
    ∀ (b : Behaviour) (loader : Loader) (settings : Settings) (tokenPresent : Bool)
        (patience : ℕ) (h : Handle),
      let w := World.initial (Timeline.start b)
      ((load loader settings.libraryPath).run environment w).1 = .ok h →
        (b.places.map Place.id).Nodup → b.places.length < UInt64.size →
          ((run loader settings (.slots tokenPresent) patience).run environment w).1 =
            some (.ok (slotReport b tokenPresent)) := by
  refine ⟨fun start steps loader path tokenPresent h => ?_,
    fun b loader settings tokenPresent patience h => ?_⟩
  · intro v w b u issued hload hmodules hslots hids hfits
    obtain ⟨m, hserving, hruns⟩ := serving_load
      (Site.accounted_after environment (s := .initial start) accounted_initial steps) hmodules
      hslots hload
    obtain ⟨hanswer, hrestored, honce, hgone⟩ :=
      slots_simulated hserving hruns hids hfits tokenPresent
    refine ⟨⟨m, hserving.module, fun p hp => ?_⟩, hanswer, honce, hgone, hrestored⟩
    have hshows := hruns.shows hids hp
    exact ⟨congrArg Prod.fst (hshows.slot w rfl),
      fun t ht => congrArg Prod.fst (hshows.token t ht w rfl)⟩
  · intro w hload hids hfits
    have hroom : 0 < Handle.Table.capacity := by decide
    obtain ⟨m, hserving, hruns⟩ := serving_load (v := w) accounted_initial hroom hroom hload
    obtain ⟨hanswer, -⟩ := slots_simulated hserving hruns hids hfits tokenPresent
    rw [run, run_bind, hload]
    dsimp only
    rw [run_bind, run_slotsCommand, hanswer]
    dsimp only
    rw [run_bind, run_pure]
    rfl

/-- The hypotheses hold of a library with an empty slot and two tokens. -/
theorem slots_report_of_empty_slot :
    ((load .supplied "libmock.so").run environment (.initial (.start shelf))).1 =
        .ok firstHandle ∧
      (shelf.places.map Place.id).Nodup ∧ shelf.places.length < UInt64.size ∧
      ((slots firstHandle false).run environment (stocked shelf)).1 =
        .ok ["Slot 3: Mock slot 3 (TestCA), hardware 1.00, firmware 2.05", "  No token",
          "Slot 7: Mock slot 7 (TestCA), hardware 1.00, firmware 2.05",
          "  Token 'other': TestCA MockModel, serial 0000000000000007",
          "Slot 9: Mock slot 9 (TestCA), hardware 1.00, firmware 2.05",
          "  Token 'mine': TestCA MockModel, serial 0000000000000009"] ∧
      ((slots firstHandle false).issued environment (stocked shelf)).length = 3 ∧
      ((run .supplied (Settings.forLibrary ⟨none, none⟩ "libmock.so") (.slots true) 0).run
        environment (.initial (.start shelf))).1 = some (.ok (slotReport shelf true)) := by
  have hload : ((load .supplied "libmock.so").run environment (.initial (.start shelf))).1 =
      .ok firstHandle := rfl
  have hids : (shelf.places.map Place.id).Nodup := by decide
  have hfits : shelf.places.length < UInt64.size := by decide
  have hlines : slotReport shelf false =
      ["Slot 3: Mock slot 3 (TestCA), hardware 1.00, firmware 2.05", "  No token",
        "Slot 7: Mock slot 7 (TestCA), hardware 1.00, firmware 2.05",
        "  Token 'other': TestCA MockModel, serial 0000000000000007",
        "Slot 9: Mock slot 9 (TestCA), hardware 1.00, firmware 2.05",
        "  Token 'mine': TestCA MockModel, serial 0000000000000009"] := by decide +kernel
  obtain ⟨-, hanswer, honce, -⟩ := slots_report.1 (.start shelf) [] .supplied "libmock.so" false
    firstHandle hload (by decide) (by decide) hids hfits
  refine ⟨hload, hids, hfits, ?_, honce,
    slots_report.2 shelf .supplied (Settings.forLibrary ⟨none, none⟩ "libmock.so") true 0
      firstHandle hload hids hfits⟩
  rw [← hlines]
  exact hanswer

end Probe

end Cryptoki
