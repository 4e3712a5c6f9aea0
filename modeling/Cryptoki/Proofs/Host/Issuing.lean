import Cryptoki.Proofs.Handle.Refinement
import Cryptoki.Proofs.Host.Balance
import Cryptoki.Proofs.Host.Run
import Cryptoki.Proofs.Module.Labels
import Cryptoki.Proofs.Module.Waiting
import Cryptoki.Proofs.Module.Sessions

/-!
Handles for slots that a library finds.

A slot is looked up by the label of its token, or waited for. Either way the library is only looked
at, and a handle is issued if there is a slot in the end: one handle, for this slot of the module it
was looked up in. Otherwise none is issued.
-/

namespace Cryptoki.Host

open Process Program

variable {α σ : Type} {env : Environment σ} {w : World σ} {held : List Module} {h s : Handle}
  {m : Module} {p q r : Process}

/-- The slot of the module under the handle was registered under a handle that meant nothing before,
and nothing else was done. There are only so many entries whose handles can be told apart. -/
structure Issues (h : Handle) (id : SlotId) (p : Process) (s : Handle) (q : Process) : Prop where
  registered : (s, q.slots) = p.slots.insert ⟨id, h⟩
  rest : Same { p with slots := q.slots } q
  unknown : q.slots.entries.size ≤ Handle.Table.capacity → p.slots.find? s = none
  bound : q.slots.entries.size ≤ Handle.Table.capacity →
    ∀ k, q.slots.find? k = if k = s then some ⟨id, h⟩ else p.slots.find? k

lemma Issues.same {id : SlotId} (hp : Issues h id p s q) (hsame : Same q r) :
    Issues h id p s r where
  registered := by rw [hsame.slots, hp.registered]
  rest := by
    rw [hsame.slots]
    exact hp.rest.trans hsame
  unknown := by
    rw [hsame.slots]
    exact hp.unknown
  bound := by
    rw [hsame.slots]
    exact hp.bound

lemma issues_register (env : Environment σ) (hw : Accounted w.process held) (h : Handle)
    (id : SlotId) : Issues h id w.process ((register h id).run env w).1
      ((register h id).run env w).2.process where
  registered := rfl
  rest := Same.refl _
  unknown hroom := hw.slots.sound.find?_insert_fst _ hroom
  bound hroom := hw.slots.sound.find?_insert _ hroom

/-- A handle was issued if a slot was found. Otherwise there is none, and the process is as it was.
-/
inductive Registers (h : Handle) (p : Process) (given : Handle → α) (nothing : Except Fault α) :
    Except Fault (Option SlotId) → Except Fault α → Process → Prop
  | failed (f : Fault) {q : Process} (hsame : Same p q) :
      Registers h p given nothing (.error f) (.error f) q
  | nowhere {q : Process} (hsame : Same p q) : Registers h p given nothing (.ok none) nothing q
  | issued {id : SlotId} {s : Handle} {q : Process} (hissues : Issues h id p s q) :
      Registers h p given nothing (.ok (some id)) (.ok (given s)) q

lemma Registers.same {given : Handle → α} {nothing : Except Fault α}
    {found : Except Fault (Option SlotId)} {a : Except Fault α}
    (hp : Registers h p given nothing found a q) (hsame : Same q r) :
    Registers h p given nothing found a r := by
  cases hp with
  | failed f hq => exact .failed f (hq.trans hsame)
  | nowhere hq => exact .nowhere (hq.trans hsame)
  | issued hissues => exact .issued (hissues.same hsame)

lemma Registers.found {id : SlotId} {given : Handle → α} {nothing a : Except Fault α}
    (hp : Registers h p given nothing (.ok (some id)) a q) :
    ∃ s, a = .ok (given s) ∧ Issues h id p s q := by
  cases hp with
  | issued hissues => exact ⟨_, rfl, hissues⟩

/-- A slot is looked for, and registered if it is found. -/
lemma registers_of_looks (hw : Accounted w.process held)
    {search : Program (Except Fault (Option SlotId))} (hlooks : m.Looks search)
    {k : Except Fault (Option SlotId) → Program (Except Fault α)} {given : Handle → α}
    {nothing : Except Fault α} (hfailed : ∀ f, k (.error f) = pure (.error f))
    (hnowhere : k (.ok none) = pure nothing)
    (hfound : ∀ id, k (.ok (some id)) = do return .ok (given (← register h id)))
    {o : Program (Except Fault α)} (hagree : o.Agree env Same (search >>= k) w w) :
    Registers h w.process given nothing (search.run env w).1 (o.run env w).1
        (o.run env w).2.process ∧ o.requests env w = search.requests env w := by
  -- Looking leaves the process alone, so what is registered is registered in the one at the start.
  have hprocess := hlooks.run_process env w
  have hanswer := hagree.answer
  have hrequests := hagree.requests
  have hworld := hagree.world.process.symm
  rw [run_bind] at hanswer hworld
  rw [requests_bind] at hrequests
  rw [hanswer, hrequests]
  generalize search.run env w = r at hprocess hworld ⊢
  obtain ⟨found, v⟩ := r
  dsimp only at hprocess hworld ⊢
  rw [← hprocess] at hw ⊢
  rcases found with f | _ | id
  · rw [hfailed] at hworld ⊢
    exact ⟨.failed f hworld, List.append_nil _⟩
  · rw [hnowhere] at hworld ⊢
    exact ⟨.nowhere hworld, List.append_nil _⟩
  · rw [hfound, run_bind] at hworld ⊢
    exact ⟨.issued ((issues_register env hw h id).same hworld), List.append_nil _⟩

/-! ### A slot with a label -/

lemma registers_openSlotByLabel (env : Environment σ) (hw : Accounted w.process held)
    (hf : w.process.modules.find? h = some m) (label : String) :
    Registers h w.process id
        (.error (.invalidArgument ("no PKCS#11 token with label '" ++ label ++ "'")))
        ((m.findSlot label).run env w).1 ((openSlotByLabel h label).run env w).1
        ((openSlotByLabel h label).run env w).2.process ∧
      (openSlotByLabel h label).requests env w = (m.findSlot label).requests env w := by
  refine registers_of_looks hw (m.looks_findSlot label) ?_ ?_ ?_
    (ModuleOp.agree (.openSlotByLabel label) hf (hw.alive hf))
  · exact fun f => rfl
  · rfl
  · exact fun id => rfl

/-- **The first slot with a label is found.** The slots listed with a token are asked for their
tokens in turn; the first that bears the label is the answer, any failure but that a token has gone
by then ends the search, and there is no answer exactly if the end of the list is reached. In the
library in memory, where no two slots have one number, the first slot is found whose label as it can
be read back from its field is the one looked for; so a token is found by its own label if that can
be read back and is not what is read of an earlier one. A host is given one handle for the slot that
was found, and none if there is no such slot. -/
theorem findSlot_first :
    (∀ {σ : Type} (env : Environment σ) (m : Module) (label : String) (w : World σ), ∃ e,
      (m.findSlot label).asked env w = (m.slotList true).asked env w ++ e ∧
        match ((m.slotList true).run env w).1 with
        | .error f => e = [] ∧ ((m.findSlot label).run env w).1 = .error f
        | .ok ids => m.Scanned label ids e ((m.findSlot label).run env w).1 ∧
          (((m.findSlot label).run env w).1 = .ok none ↔ m.Passed label ids e)) ∧
    (∀ (m : Module) (label : String) (w : World Simulated.Timeline),
      m.functions.provides .getSlotList → m.functions.provides .getTokenInfo →
        w.outside.library.running → (w.outside.library.behaviour.places.map (·.id)).Nodup →
          w.outside.library.behaviour.places.length < UInt64.size →
            ((m.findSlot label).run Simulated.environment w).1 =
                .ok ((w.outside.library.behaviour.places.find? fun p => p.told = some label).map
                  (·.id)) ∧
              ∀ before p after, w.outside.library.behaviour.places = before ++ p :: after →
                p.label = some label → (Text.utf8 label).length ≤ 32 → '\x00' ∉ label.toList →
                  label.toList.getLast? ≠ some ' ' → (∀ q ∈ before, q.told ≠ some label) →
                    ((m.findSlot label).run Simulated.environment w).1 = .ok (some p.id)) ∧
    ∀ {σ : Type} (env : Environment σ) (start : σ) (steps : List (Step σ)) (h : Handle)
      (m : Module) (label : String),
      let w := ((Site.initial start).after env steps).world
      w.process.modules.find? h = some m →
        Registers h w.process id
            (.error (.invalidArgument ("no PKCS#11 token with label '" ++ label ++ "'")))
            ((m.findSlot label).run env w).1 ((openSlotByLabel h label).run env w).1
            ((openSlotByLabel h label).run env w).2.process ∧
          (openSlotByLabel h label).requests env w = (m.findSlot label).requests env w := by
  refine ⟨fun env m label w => ?_, fun m label w hlists hprovided hrunning hids hfits => ?_,
    fun env start steps h m label hf => ?_⟩
  · obtain ⟨e, hasked, hscanned⟩ := Module.scanned_findSlot env m label w
    refine ⟨e, hasked, ?_⟩
    generalize ((m.slotList true).run env w).1 = listed at hscanned ⊢
    rcases listed with f | ids
    · exact hscanned
    · exact ⟨hscanned, hscanned.eq_none_iff⟩
  · have hfound := Module.run_findSlot_simulated hlists hprovided hrunning hids hfits label
    refine ⟨hfound, fun before p after hplaces hp hlength hzero hblank hearlier => ?_⟩
    have htold := Simulated.Place.told_eq hp hlength hzero hblank
    rw [hfound, hplaces, Simulated.find?_told_append htold hearlier]
    rfl
  · exact registers_openSlotByLabel env
      (Site.accounted_after env (s := .initial start) accounted_initial steps) hf label

/-- A library with no token in its first slot and the one looked for in its third. -/
def shelf : Simulated.Behaviour :=
  { Simulated.Behaviour.standard with places := [⟨3, none⟩, ⟨7, some "other"⟩, ⟨9, some "mine"⟩] }

/-- The world after such a library was loaded. -/
def stocked (b : Simulated.Behaviour) : World Simulated.Timeline :=
  ((Site.initial (Simulated.Timeline.start b)).after Simulated.environment
    [.call (.load .supplied "libmock.so")]).world

lemma told_other : (⟨7, some "other"⟩ : Simulated.Place).told = some "other" :=
  Simulated.Place.told_eq rfl (by decide) (by decide) (by decide)

/-- The hypotheses hold of a library with the token in its third slot, for which a handle is
issued. -/
theorem findSlot_first_of_third_slot :
    simulated.functions.provides .getSlotList ∧ simulated.functions.provides .getTokenInfo ∧
      (stocked shelf).outside.library.running ∧
      ((stocked shelf).outside.library.behaviour.places.map (·.id)).Nodup ∧
      (stocked shelf).outside.library.behaviour.places.length < UInt64.size ∧
      (stocked shelf).process.modules.find? firstHandle = some simulated ∧
      ((simulated.findSlot "mine").run Simulated.environment (stocked shelf)).1 = .ok (some 9) ∧
      ∃ s, ((openSlotByLabel firstHandle "mine").run Simulated.environment (stocked shelf)).1 =
          .ok s ∧
        Issues firstHandle 9 (stocked shelf).process s
          ((openSlotByLabel firstHandle "mine").run Simulated.environment
            (stocked shelf)).2.process := by
  have hrunning : (stocked shelf).outside.library.running := by decide
  have hids : ((stocked shelf).outside.library.behaviour.places.map (·.id)).Nodup := by decide
  have hlength : (stocked shelf).outside.library.behaviour.places.length < UInt64.size := by decide
  have hf : (stocked shelf).process.modules.find? firstHandle = some simulated := by rfl
  have hearlier : ∀ q ∈ [⟨3, none⟩, ⟨7, some "other"⟩],
      (q : Simulated.Place).told ≠ some "mine" := by
    simp only [List.forall_mem_cons, told_other]
    exact ⟨by simp [Simulated.Place.told], by decide, List.forall_mem_nil _⟩
  have hfound := (findSlot_first.2.1 simulated "mine" (stocked shelf) rfl rfl hrunning hids
    hlength).2 [⟨3, none⟩, ⟨7, some "other"⟩] ⟨9, some "mine"⟩ [] rfl rfl (by decide) (by decide)
      (by decide) hearlier
  obtain ⟨hregisters, -⟩ := findSlot_first.2.2 Simulated.environment
    (Simulated.Timeline.start shelf) [.call (.load .supplied "libmock.so")] firstHandle simulated
      "mine" hf
  refine ⟨rfl, rfl, hrunning, hids, hlength, hf, hfound, ?_⟩
  change Registers firstHandle (stocked shelf).process id _
    ((simulated.findSlot "mine").run Simulated.environment (stocked shelf)).1
    ((openSlotByLabel firstHandle "mine").run Simulated.environment (stocked shelf)).1
    ((openSlotByLabel firstHandle "mine").run Simulated.environment (stocked shelf)).2.process
      at hregisters
  rw [hfound] at hregisters
  exact hregisters.found

/-! ### A slot that is waited for -/

lemma registers_waitForSlot (env : Environment σ) (hw : Accounted w.process held)
    (hf : w.process.modules.find? h = some m) (patience : ℕ) :
    Registers h w.process some (.ok none) ((m.waitForSlot patience).run env w).1
        ((waitForSlot h patience).run env w).1 ((waitForSlot h patience).run env w).2.process ∧
      (waitForSlot h patience).requests env w = (m.waitForSlot patience).requests env w := by
  refine registers_of_looks hw (m.looks_waitForSlot patience) ?_ ?_ ?_
    (ModuleOp.agree (.waitForSlot patience) hf (hw.alive hf))
  · exact fun f => rfl
  · rfl
  · exact fun id => rfl

/-- **The first slot with a token ends the wait.** A library that reports events is asked once, and
what it reports is the answer, or its failure is. Where events cannot be reported, the slots are
looked at after each sleep, whatever happens to the library meanwhile. The wait goes on while no
look shows a slot with a token; the first that does is the last, however much patience is left, and
the answer is the first slot that is seen, or the failure of this look. A host is given one handle
for the slot that is the answer, and none if there is no such slot. -/
theorem waitForSlot_first :
    (∀ {σ : Type} (env : Environment σ) (m : Module) (w : World σ) (patience : ℕ),
      (∀ e, m.event? env w = some e → e.code = .ok →
        ((m.waitForSlot patience).run env w).1 = .ok (some (e.written.getD 0)) ∧
          (m.waitForSlot patience).requests env w = [m.awaiting]) ∧
      (∀ e, m.event? env w = some e → e.code ≠ .ok → e.code ≠ .functionNotSupported →
        ((m.waitForSlot patience).run env w).1 =
            .error (Module.failed m.name .waitForSlotEvent e.code) ∧
          (m.waitForSlot patience).requests env w = [m.awaiting]) ∧
      ((∀ e, m.event? env w = some e → e.code = .functionNotSupported) →
        let v := m.alerted env w
        (∀ n < patience, m.InVain env v n → m.sight env v n ≠ .ok [] →
          ((m.waitForSlot patience).run env w).1 = (m.sight env v n).map List.head? ∧
            (m.waitForSlot patience).requests env w = m.awaited ++ m.glances env v (n + 1) ∧
            ((m.waitForSlot patience).requests env w).count .sleep = n + 1) ∧
        (m.InVain env v patience → ((m.waitForSlot patience).run env w).1 = .ok none ∧
          (m.waitForSlot patience).requests env w = m.awaited ++ m.glances env v patience))) ∧
    ∀ {σ : Type} (env : Environment σ) (start : σ) (steps : List (Step σ)) (h : Handle)
      (m : Module) (patience : ℕ),
      let w := ((Site.initial start).after env steps).world
      w.process.modules.find? h = some m →
        Registers h w.process some (.ok none) ((m.waitForSlot patience).run env w).1
            ((waitForSlot h patience).run env w).1
            ((waitForSlot h patience).run env w).2.process ∧
          (waitForSlot h patience).requests env w = (m.waitForSlot patience).requests env w := by
  refine ⟨fun env m w patience => ⟨fun e he hcode => ?_, fun e he hcode hevents => ?_,
    fun heventless => ⟨fun n hn hvain hsight => ?_, fun hvain => ?_⟩⟩,
    fun env start steps h m patience hf => ?_⟩
  · exact Module.waitForSlot_of_reported he hcode patience
  · exact Module.waitForSlot_of_failed he hcode hevents patience
  · obtain ⟨hrun, hrequests⟩ := Module.waitForSlot_of_eventless heventless patience
    obtain ⟨hanswer, hglances⟩ := Module.poll_ends hvain hsight hn
    rw [hglances] at hrequests
    refine ⟨hrun.trans hanswer, hrequests, ?_⟩
    rw [hrequests, List.count_append, Module.count_sleep_awaited, Module.count_sleep_glances,
      Nat.zero_add]
  · obtain ⟨hrun, hrequests⟩ := Module.waitForSlot_of_eventless heventless patience
    obtain ⟨hanswer, hglances⟩ := Module.poll_goes_on hvain
    exact ⟨hrun.trans hanswer, hrequests.trans (congrArg _ hglances)⟩
  · exact registers_waitForSlot env
      (Site.accounted_after env (s := .initial start) accounted_initial steps) hf patience

/-- A library that cannot report events and has no token at first. -/
def bare : Simulated.Behaviour :=
  { Simulated.Behaviour.standard with
    eventCode := .functionNotSupported, places := [⟨3, none⟩, ⟨4, none⟩] }

/-- In the first sleep nothing happens to it, and in the second a token comes to the second slot. -/
def lateSteps : List (Step Simulated.Timeline) :=
  [.call (.load .supplied "libmock.so"), .change fun t =>
    { t with changes := [fun b => b, fun b => { b with places := [⟨3, none⟩, ⟨4, some "late"⟩] }] }]

def late : World Simulated.Timeline :=
  ((Site.initial (Simulated.Timeline.start bare)).after Simulated.environment lateSteps).world

/-- A library that fails to wait. -/
def unwilling : Simulated.Behaviour :=
  { Simulated.Behaviour.standard with eventCode := ⟨0x30⟩ }

lemma inVain_late :
    simulated.InVain Simulated.environment (simulated.alerted Simulated.environment late) 1 := by
  intro k hk
  obtain rfl : k = 0 := Nat.lt_one_iff.mp hk
  rfl

lemma eventless_late (e : Reply SlotId)
    (he : simulated.event? Simulated.environment late = some e) :
    e.code = .functionNotSupported := by
  obtain rfl : ⟨.functionNotSupported, none⟩ = e := Option.some.inj he
  rfl

/-- The hypotheses hold of a library that reports an event, of one that fails to, and of one that
cannot, in which a token is there after the second sleep and a handle is issued. -/
theorem waitForSlot_first_of_late_token :
    simulated.event? Simulated.environment (stocked .standard) = some ⟨.ok, some 0⟩ ∧
      ((simulated.waitForSlot 5).run Simulated.environment (stocked .standard)).1 =
        .ok (some 0) ∧
      simulated.event? Simulated.environment (stocked unwilling) = some ⟨⟨0x30⟩, none⟩ ∧
      ((simulated.waitForSlot 5).run Simulated.environment (stocked unwilling)).1 =
        .error (Module.failed "libmock.so" .waitForSlotEvent ⟨0x30⟩) ∧
      ((simulated.waitForSlot 1).run Simulated.environment late).1 = .ok none ∧
      ((simulated.waitForSlot 5).run Simulated.environment late).1 = .ok (some 4) ∧
      ((simulated.waitForSlot 5).requests Simulated.environment late).count .sleep = 2 ∧
      late.process.modules.find? firstHandle = some simulated ∧
      ∃ s, ((waitForSlot firstHandle 5).run Simulated.environment late).1 = .ok (some s) ∧
        Issues firstHandle 4 late.process s
          ((waitForSlot firstHandle 5).run Simulated.environment late).2.process := by
  have hreported : simulated.event? Simulated.environment (stocked .standard) =
    some ⟨.ok, some 0⟩ := rfl
  have hfailed : simulated.event? Simulated.environment (stocked unwilling) =
    some ⟨⟨0x30⟩, none⟩ := rfl
  have hf : late.process.modules.find? firstHandle = some simulated := rfl
  have hsight : simulated.sight Simulated.environment
    (simulated.alerted Simulated.environment late) 1 = .ok [4] := rfl
  have hwait := waitForSlot_first.1 Simulated.environment simulated
  have hone := (hwait (stocked .standard) 5).1 _ hreported rfl
  have htwo := (hwait (stocked unwilling) 5).2.1 _ hfailed (by decide) (by decide)
  have hvain := ((hwait late 1).2.2 eventless_late).2 inVain_late
  obtain ⟨hanswer, -, hsleeps⟩ := ((hwait late 5).2.2 eventless_late).1 1 (by decide) inVain_late
    (by rw [hsight]; decide)
  rw [hsight] at hanswer
  obtain ⟨hregisters, -⟩ := waitForSlot_first.2 Simulated.environment
    (Simulated.Timeline.start bare) lateSteps firstHandle simulated 5 hf
  refine ⟨hreported, hone.1, hfailed, htwo.1, hvain.1, hanswer, hsleeps, hf, ?_⟩
  change Registers firstHandle late.process some _
    ((simulated.waitForSlot 5).run Simulated.environment late).1
    ((waitForSlot firstHandle 5).run Simulated.environment late).1
    ((waitForSlot firstHandle 5).run Simulated.environment late).2.process at hregisters
  rw [hanswer] at hregisters
  exact hregisters.found

end Cryptoki.Host
