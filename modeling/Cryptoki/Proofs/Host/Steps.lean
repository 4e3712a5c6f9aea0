import Cryptoki.Proofs.Host.Loading
import Cryptoki.Proofs.Host.Run

/-!
What a step of a host does, deed by deed.

Most steps work with modules that are alive: they make calls that have to do with slots and
sessions, and leave the loading subsystem alone. The others are a load, which is refused or not,
the end of a module, and the taking and giving back of a reference to the loading subsystem. Which
modules are alive after a step depends only on which of these it was.
-/

namespace Cryptoki

open Process Program

variable {α β σ : Type} {env : Environment σ} {w : World σ} {held : List Module} {h s : Handle}
  {m : Module}

/-! ### Working with live modules -/

/-- An access that does not concern the loading subsystem. -/
def Process.Access.Plain : Access → Prop
  | .acquireLoading | .releaseLoading => False
  | _ => True

lemma Process.Access.Neutral.plain {a : Access} (ha : a.Neutral) : a.Plain := by
  cases a <;> trivial

namespace Deed

lemma Within.mono {A B : Access → Prop} {R S : Request → Prop} {d : Deed} (hd : d.Within A R)
    (hA : ∀ a, A a → B a) (hR : ∀ r, R r → S r) : d.Within B S := by
  cases d with
  | asked r x => exact hR r hd
  | accessed a x => exact hA a hd

/-- It works with a module that is alive in this process, if it asks for anything. -/
def Works (p : Process) (d : Deed) : Prop :=
  d.Within Access.Plain fun r => ∃ j, 0 < p.references j ∧ r.CallsOf j

/-- Neutral accesses and the calls of a live module are work. -/
lemma works_of_reaches {p : Process} {d : Deed} (halive : 0 < p.references m.id)
    (hd : d.Within Access.Neutral (Request.CallsOf m.id)) : d.Works p :=
  hd.mono (fun _ ha => ha.plain) fun _ hr => ⟨m.id, halive, hr⟩

end Deed

lemma Program.works_bind {p : Process} {q : Program α} {f : α → Program β}
    (hq : ∀ d ∈ q.deeds env w, d.Works p)
    (hf : ∀ a, (f a).Within Access.Neutral fun _ => False) :
    ∀ d ∈ (q >>= f).deeds env w, d.Works p := by
  rw [deeds_bind]
  refine List.forall_mem_append.mpr ⟨hq, fun d hd => ?_⟩
  exact ((hf _).deeds env _ d hd).mono (fun _ ha => ha.plain) fun _ hr => hr.elim

/-! ### The end of a module -/

namespace Module

/-- The deeds that end a module. Its library is finalized and closed, and the loading subsystem is
given back. -/
def ending (j : ModuleId) (left : ℕ) (code : Code) (last : Bool) : List Deed :=
  [.accessed (.sessions j .size) left, .asked (.call j (.finalize false)) code,
    .accessed (.discard j) (), .asked (.closeLibrary j) (), .accessed .releaseLoading last]

lemma deeds_tearDown (env : Environment σ) (m : Module) (w : World σ) :
    ∃ left code last, m.tearDown.deeds env w = ending m.id left code last := by
  rw [tearDown, deeds_bind, run_touch, deeds_touch]
  refine ⟨(Access.apply w.process (.sessions m.id .size)).1, ?_⟩
  split_ifs
  on_goal 1 => rw [deeds_bind, deeds_say, run_say]
  all_goals
    rw [deeds_bind, deeds_call, run_call]
    split_ifs
    on_goal 1 => rw [deeds_bind, deeds_say, run_say]
    all_goals
      rw [deeds_bind, deeds_say, run_say, deeds_bind, deeds_touch, run_touch, deeds_bind, deeds_ask,
        run_ask, deeds_giveBack]
      exact ⟨_, _, rfl⟩

/-- A reference that is given back is the last one or not, and the module ends by that or not. -/
lemma deeds_release (env : Environment σ) {w : World σ} (halive : 0 < w.process.references m.id) :
    (1 < w.process.references m.id ∧
        m.release.deeds env w = [.accessed (.release m.id) false]) ∨
      w.process.references m.id = 1 ∧ ∃ left code last,
        m.release.deeds env w = .accessed (.release m.id) true :: ending m.id left code last := by
  have hlast : (Access.apply w.process (.release m.id)).1 =
    (w.process.references m.id - 1 == 0) := rfl
  rw [release, deeds_bind, run_touch, deeds_touch, hlast]
  rcases Nat.lt_or_ge 1 (w.process.references m.id) with hmore | hone
  · have hnonzero : (w.process.references m.id - 1 == 0) = false := by
      rw [beq_eq_false_iff_ne]
      omega
    rw [hnonzero]
    exact .inl ⟨hmore, rfl⟩
  · have hzero : w.process.references m.id = 1 := by omega
    rw [hzero]
    obtain ⟨left, code, last, hdeeds⟩ := deeds_tearDown env m
      { w with process := (Access.apply w.process (.release m.id)).2 }
    exact .inr ⟨rfl, left, code, last, congrArg (_ :: ·) hdeeds⟩

end Module

/-! ### Operations -/

namespace Host

lemma deeds_hold : (hold h).deeds env w =
    [.accessed (.resolveModule h) (Access.apply w.process (.resolveModule h)).1] := rfl

lemma works_withModule {body : Module → Program (Except Fault α)} (hw : Accounted w.process held)
    (hbody : ∀ m : Module, m.Reaches (body m)) :
    ∀ d ∈ (withModule h body).deeds env w, d.Works w.process := by
  rw [withModule, deeds_bind, deeds_hold]
  refine List.forall_mem_append.mpr ⟨List.forall_mem_singleton.mpr (by trivial), ?_⟩
  rcases hf : w.process.modules.find? h with _ | m
  · rw [run_hold_stale hf]
    exact fun d hd => absurd hd List.not_mem_nil
  have halive : 0 < w.process.references m.id := hw.alive hf
  rw [run_hold hf, deeds_bind, deeds_bind, deeds_pure, List.append_nil]
  refine List.forall_mem_append.mpr ⟨fun d hd => ?_, ?_⟩
  · exact Deed.works_of_reaches halive ((hbody m).deeds env _ d hd)
  -- The registry has a reference of its own, so the one given back is not the last.
  have hsteady := (hbody m).neutral.steady env { w with process := Access.retain w.process m.id }
  have hmore := hsteady.references m.id
  rw [references_retain, one, if_pos rfl] at hmore
  obtain ⟨-, hdeeds⟩ | ⟨hone, -⟩ := Module.deeds_release env (m := m) (by rw [hmore]; omega)
  · rw [hdeeds]
    exact List.forall_mem_singleton.mpr (by trivial)
  · omega

lemma works_withSlot {body : Module → SlotId → Program (Except Fault α)}
    (hw : Accounted w.process held) (hbody : ∀ (m : Module) id, m.Reaches (body m id)) :
    ∀ d ∈ (withSlot h s body).deeds env w, d.Works w.process :=
  works_withModule hw fun m => within_inSlot (hbody m)

lemma ModuleOp.works (hw : Accounted w.process held) (o : ModuleOp) (ho : o ≠ .unload) :
    ∀ d ∈ (o.program h).deeds env w, d.Works w.process := by
  have hregister : ∀ id, (register h id).Within Access.Neutral fun _ => False :=
    fun id => within_touch.mpr trivial
  cases o with
  | unload => exact absurd rfl ho
  | openSlot id =>
    refine works_bind (works_withModule hw fun m => (m.owns_slotInfo id).reaches) fun told => ?_
    rcases told with f | info
    · exact within_pure _
    · exact within_bind (hregister id) fun _ => within_pure _
  | waitForSlot patience =>
    refine works_bind (works_withModule hw fun m => (m.owns_waitForSlot patience).reaches)
      fun event => ?_
    rcases event with f | _ | id
    · exact within_pure _
    · exact within_pure _
    · exact within_bind (hregister id) fun _ => within_pure _
  | _ => exact works_withModule hw fun m => reaches_effect h m _ ho

lemma SlotOp.works (hw : Accounted w.process held) (o : SlotOp) :
    ∀ d ∈ (o.program h s).deeds env w, d.Works w.process := by
  by_cases ho : o = .close
  · subst ho
    refine works_bind (works_withSlot hw fun _ _ => within_pure _) fun r => ?_
    rcases r with f | _
    · exact within_pure _
    refine within_bind (within_touch.mpr trivial) fun gone => ?_
    rcases gone with f | slot
    · exact within_pure _
    · exact within_pure _
  · rw [o.program_eq ho]
    exact works_withSlot hw fun m id => reaches_effect s m id o

lemma ModuleOp.steady (hw : Accounted w.process held) (o : ModuleOp) (ho : o ≠ .unload) :
    w.process.Steady ((o.program h).run env w).2.process := by
  obtain ⟨m, -, hagree⟩ | ⟨kind, hrefuses⟩ := o.agree_or_refuses env hw h
  · exact ((o.neutral_effect h m ho).steady env w).trans hagree.world.process.symm.steady
  · exact hrefuses.world.process.symm.steady

lemma SlotOp.steady (hw : Accounted w.process held) (o : SlotOp) :
    w.process.Steady ((o.program h s).run env w).2.process := by
  obtain ⟨m, id, -, -, hagree⟩ | ⟨kind, k, hrefuses⟩ := o.agree_or_refuses env hw h s
  · exact ((o.neutral_effect s m id).steady env w).trans hagree.world.process.symm.steady
  · exact hrefuses.world.process.symm.steady

/-- A process in which a module and its slots are not registered any more. -/
def without (p : Process) (h : Handle) : Process :=
  (Access.apply (Access.apply p (.removeModule h)).2 (.removeSlotsOf h)).2

lemma deeds_unload_stale (hf : w.process.modules.find? h = none) : (Host.unload h).deeds env w =
    [.accessed (.removeModule h) (Access.apply w.process (.removeModule h)).1] := by
  have hremove : (Access.apply w.process (.removeModule h)).1 =
      .error (.staleHandle w.process.modules.kind h) := by
    simp [Access.apply, Handle.Table.remove, hf, Handle.Table.stale]
  rw [Host.unload, deeds_bind, run_touch, deeds_touch, hremove]
  rfl

/-- An unload takes the module and its slots out of the registries and then gives the reference of
the registry back. -/
lemma unload_found (env : Environment σ) (hf : w.process.modules.find? h = some m) :
    ∃ before v, (∀ d ∈ before, d.Within Access.Plain fun _ => False) ∧ v.outside = w.outside ∧
      v.process = without w.process h ∧
      (Host.unload h).deeds env w = before ++ m.release.deeds env v ∧
      ((Host.unload h).run env w).2 = (m.release.run env v).2 := by
  have hremove : (Access.apply w.process (.removeModule h)).1 = .ok m := by
    simp [Access.apply, Handle.Table.remove, hf]
  rw [Host.unload, deeds_bind, run_bind, run_touch, deeds_touch, hremove]
  dsimp only
  rw [deeds_bind, run_bind, run_touch, deeds_touch, deeds_bind, run_bind, deeds_say, run_say,
    deeds_bind, run_bind, deeds_pure, run_pure, List.nil_append, List.append_nil,
    ← List.append_assoc]
  refine ⟨_, _, ?_, ?_, ?_, rfl, rfl⟩
  · exact List.forall_mem_cons.mpr ⟨by trivial, List.forall_mem_singleton.mpr (by trivial)⟩
  · rfl
  · rfl

/-! ### Steps -/

namespace Site

variable {t : Site σ}

/-- The module with this number is registered or held. -/
def Live (s : Site σ) (j : ModuleId) : Prop :=
  0 < s.world.process.registered j ∨ ∃ m ∈ s.held, m.id = j

/-- The deeds of a step. -/
def deeds (env : Environment σ) (s : Site σ) : Step σ → List Deed
  | .call o => o.program.deeds env s.world
  | .hold h => (Host.hold h).deeds env s.world
  | .use k o =>
    match s.held[k]? with
    | some m => (o.program m).deeds env s.world
    | none => []
  | .letGo k =>
    match s.held[k]? with
    | some m => m.release.deeds env s.world
    | none => []
  | .acquire => Loading.acquire.deeds env s.world
  | .giveBack => if s.acquired = 0 then [] else Loading.release.deeds env s.world
  | .change _ => []

/-- The deeds of all steps, one after the other. -/
def trace (env : Environment σ) (s : Site σ) : List (Step σ) → List Deed
  | [] => []
  | st :: steps => s.deeds env st ++ (s.step env st).trace env steps

/-- The requests of a step. -/
def requests (env : Environment σ) (s : Site σ) (st : Step σ) : List Request :=
  (s.deeds env st).filterMap Deed.request?

/-- The modules that are alive, the loads that were tried and the references that were acquired. -/
structure Has (s : Site σ) (live : ModuleId → Prop) (attempts acquired : ℕ) : Prop where
  live : ∀ j, s.Live j ↔ live j
  attempts : s.world.process.attempts = attempts
  acquired : s.acquired = acquired

open Cryptoki.Module

/-- What a step from one site to another did. -/
inductive Did (s t : Site σ) : List Deed → Prop
  | worked {d : List Deed} (hd : ∀ x ∈ d, x.Works s.world.process)
      (hhas : t.Has s.Live s.world.process.attempts s.acquired) : Did s t d
  | refused {loader : Loader} {path : String} {d : List Deed} {stage : Stage} {f : Fault}
      (first last : Bool)
      (hcourse : Course loader s.world.process.attempts path
        (Stage.undoing s.world.process.attempts) Stage.all d (some (stage, f)))
      (hhas : t.Has s.Live (s.world.process.attempts + 1) s.acquired) :
      Did s t (.accessed .acquireLoading first ::
        .accessed .newModule s.world.process.attempts :: (d ++ [.accessed .releaseLoading last]))
  | loaded {loader : Loader} {path : String} {d : List Deed} (first : Bool) (m : Module)
      (handle : Handle)
      (hcourse : Course loader s.world.process.attempts path
        (Stage.undoing s.world.process.attempts) Stage.all d none)
      (hhas : t.Has (fun j => s.Live j ∨ j = s.world.process.attempts)
        (s.world.process.attempts + 1) s.acquired) :
      Did s t (.accessed .acquireLoading first ::
        .accessed .newModule s.world.process.attempts ::
          (d ++ [.accessed (.adopt s.world.process.attempts) (),
            .accessed (.insertModule m) handle]))
  | ended {j : ModuleId} {before : List Deed} (left : ℕ) (code : Code) (last : Bool)
      (hlive : s.Live j) (hbefore : ∀ x ∈ before, x.Within Access.Plain fun _ => False)
      (hhas : t.Has (fun k => s.Live k ∧ k ≠ j) s.world.process.attempts s.acquired) :
      Did s t (before ++ ending j left code last)
  | acquired (first : Bool) (hhas : t.Has s.Live s.world.process.attempts (s.acquired + 1)) :
      Did s t [.accessed .acquireLoading first]
  | gaveBack (last : Bool) (hacquired : 0 < s.acquired)
      (hhas : t.Has s.Live s.world.process.attempts (s.acquired - 1)) :
      Did s t [.accessed .releaseLoading last]

variable {s : Site σ}

lemma live_iff (hs : Accounted s.world.process s.held) (j : ModuleId) :
    s.Live j ↔ 0 < s.world.process.references j := by
  have hheld : (∃ m ∈ s.held, m.id = j) ↔ 0 < holdings s.held j := by
    simp [holdings, List.countP_pos_iff]
  rw [Live, hheld, hs.references]
  omega

lemma Live.lt (hs : Accounted s.world.process s.held) {j : ModuleId} (h : s.Live j) :
    j < s.world.process.attempts := by
  by_contra hfresh
  have hnone := hs.fresh j (not_lt.mp hfresh)
  have halive := (live_iff hs j).mp h
  omega

/-- A step that leaves every module with references if it had any, and none if it had none. -/
lemma has_of_references (hs : Accounted s.world.process s.held)
    (ht : Accounted t.world.process t.held)
    (href : ∀ j, 0 < t.world.process.references j ↔ 0 < s.world.process.references j)
    (hattempts : t.world.process.attempts = s.world.process.attempts) :
    t.Has s.Live s.world.process.attempts t.acquired where
  live j := by rw [live_iff ht, live_iff hs, href]
  attempts := hattempts
  acquired := rfl

lemma did_work {d : List Deed} (hs : Accounted s.world.process s.held)
    (ht : Accounted t.world.process t.held) (hd : ∀ x ∈ d, x.Works s.world.process)
    (hsteady : s.world.process.Steady t.world.process) (hacquired : t.acquired = s.acquired) :
    Did s t d := by
  refine .worked hd ?_
  rw [← hacquired]
  exact has_of_references hs ht (fun j => by rw [hsteady.references]) hsteady.attempts

/-- A reference to a live module is given back, after some accesses that change no books. -/
lemma did_release {v : World σ} (before : List Deed) (hs : Accounted s.world.process s.held)
    (ht : Accounted t.world.process t.held) (halive : 0 < s.world.process.references m.id)
    (href : ∀ j, v.process.references j = s.world.process.references j)
    (hattempts : v.process.attempts = s.world.process.attempts)
    (hbefore : ∀ x ∈ before, x.Within Access.Plain fun _ => False)
    (hworld : t.world = (m.release.run env v).2) (hacquired : t.acquired = s.acquired) :
    Did s t (before ++ m.release.deeds env v) := by
  have hbooks := Module.books_release env m v
  rw [← hworld] at hbooks
  have hleft : ∀ j, t.world.process.references j =
      s.world.process.references j - if j = m.id then 1 else 0 := fun j => by
    rw [hbooks.references, references_release, href, one]
  have htried : t.world.process.attempts = s.world.process.attempts :=
    hbooks.attempts.trans hattempts
  obtain ⟨hmore, hdeeds⟩ | ⟨hone, left, code, last, hdeeds⟩ :=
    Module.deeds_release env (w := v) (m := m) (by rw [href]; exact halive)
  · rw [href] at hmore
    rw [hdeeds]
    refine .worked ?_ ?_
    · refine List.forall_mem_append.mpr ⟨fun x hx => ?_, List.forall_mem_singleton.mpr (by trivial)⟩
      exact (hbefore x hx).mono (fun _ ha => ha) fun _ hr => hr.elim
    · rw [← hacquired]
      refine has_of_references hs ht (fun j => ?_) htried
      rw [hleft]
      split_ifs with hj
      · subst hj
        omega
      · rfl
  · rw [href] at hone
    rw [hdeeds, ← List.singleton_append, ← List.append_assoc]
    refine .ended left code last ((live_iff hs m.id).mpr halive) ?_ ?_
    · exact List.forall_mem_append.mpr ⟨hbefore, List.forall_mem_singleton.mpr (by trivial)⟩
    · refine ⟨fun k => ?_, htried, hacquired⟩
      rw [live_iff ht, live_iff hs, hleft]
      split_ifs with hk
      · subst hk
        simp [hone]
      · simp [hk]

lemma did_load (env : Environment σ) (hs : Accounted s.world.process s.held) (loader : Loader)
    (path : String) : Did s (s.step env (.call (.load loader path)))
      ((Host.load loader path).deeds env s.world) := by
  have ht := accounted_step env hs (.call (.load loader path))
  by_cases hpath : path = ""
  · subst hpath
    exact did_work hs ht (fun _ hd => absurd hd List.not_mem_nil) (Steady.refl _) rfl
  obtain ⟨d, last, rest, hcourse, hsettled, hdeeds⟩ := deeds_load env loader hpath s.world
  rcases last with _ | ⟨stage, f⟩
  · obtain ⟨m, handle, -, rfl⟩ := hsettled
    rw [hdeeds]
    refine .loaded _ m handle hcourse ?_
    have hprocess := run_process env (Host.load loader path) s.world
    rw [hdeeds, List.foldl_cons, List.foldl_cons, List.foldl_append,
      Deed.foldl_leave_of_asked hcourse.asked] at hprocess
    refine ⟨fun j => ?_, ?_, rfl⟩
    · rw [live_iff ht, live_iff hs]
      show 0 < ((Host.load loader path).run env s.world).2.process.references j ↔ _
      rw [hprocess]
      show 0 < (Access.apply _ (.adopt s.world.process.attempts)).2.references j ↔ _
      rw [references_adopt]
      split_ifs with hj
      · simp [hj]
      · simp only [hj, or_false]
        rfl
    · show ((Host.load loader path).run env s.world).2.process.attempts = _
      rw [hprocess]
      rfl
  · have htaken := takenBack hcourse hsettled hdeeds
    obtain ⟨-, last, rfl⟩ := hsettled
    rw [hdeeds]
    refine .refused _ last hcourse ⟨fun j => ?_, ?_, rfl⟩
    · rw [live_iff ht, live_iff hs]
      show 0 < ((Host.load loader path).run env s.world).2.process.references j ↔ _
      rw [htaken.process]
      rfl
    · show ((Host.load loader path).run env s.world).2.process.attempts = _
      rw [htaken.process]

lemma did_unload (env : Environment σ) (hs : Accounted s.world.process s.held) (h : Handle) :
    Did s (s.step env (.call (.onModule h .unload)))
      ((Host.unload h).deeds env s.world) := by
  have ht := accounted_step env hs (.call (.onModule h .unload))
  rcases hf : s.world.process.modules.find? h with _ | m
  · rw [deeds_unload_stale hf]
    refine did_work hs ht (List.forall_mem_singleton.mpr (by trivial)) ?_ rfl
    exact (ModuleOp.unload.refuses hf).world.process.symm.steady
  · obtain ⟨before, v, hbefore, -, hprocess, hdeeds, hrun⟩ := unload_found env hf
    rw [hdeeds]
    refine did_release before hs ht (hs.alive hf) (fun j => ?_) ?_ hbefore hrun rfl
    · rw [hprocess]
      rfl
    · rw [hprocess]
      rfl

lemma did_nothing (hs : Accounted s.world.process s.held) : Did s s [] :=
  did_work hs hs (fun _ hd => absurd hd List.not_mem_nil) (Steady.refl _) rfl

lemma alive_of_held (hs : Accounted s.world.process s.held) {k : ℕ} (hk : s.held[k]? = some m) :
    0 < s.world.process.references m.id :=
  (live_iff hs m.id).mp (.inr ⟨m, List.mem_of_getElem? hk, rfl⟩)

lemma did_hold (env : Environment σ) (hs : Accounted s.world.process s.held) (h : Handle) :
    Did s (s.step env (.hold h)) (s.deeds env (.hold h)) := by
  have ht := accounted_step env hs (.hold h)
  have hd : ∀ x ∈ s.deeds env (.hold h), x.Works s.world.process :=
    List.forall_mem_singleton.mpr (by trivial)
  rcases hf : s.world.process.modules.find? h with _ | m
  · have hstep : s.step env (.hold h) = s := by rw [step, run_hold_stale hf]
    rw [hstep]
    exact did_work hs hs hd (Steady.refl _) rfl
  · have hstep : s.step env (.hold h) = { s with
        world := { s.world with process := Access.retain s.world.process m.id }
        held := m :: s.held } := by rw [step, run_hold hf]
    rw [hstep] at ht ⊢
    refine .worked hd (has_of_references hs ht (fun j => ?_) rfl)
    have halive : 0 < s.world.process.references m.id := hs.alive hf
    rw [references_retain, one]
    split_ifs with hj
    · subst hj
      omega
    · rfl

lemma did_use (env : Environment σ) (hs : Accounted s.world.process s.held) (k : ℕ)
    (o : Module.Method) : Did s (s.step env (.use k o)) (s.deeds env (.use k o)) := by
  have ht := accounted_step env hs (.use k o)
  rcases hk : s.held[k]? with _ | m
  · simp only [step, deeds, hk]
    exact did_nothing hs
  · simp only [step, deeds, hk] at ht ⊢
    have howns := m.owns_method o
    exact did_work hs ht
      (fun x hx => Deed.works_of_reaches (alive_of_held hs hk) (howns.reaches.deeds env _ x hx))
      (howns.neutral.steady env s.world) rfl

lemma did_letGo (env : Environment σ) (hs : Accounted s.world.process s.held) (k : ℕ) :
    Did s (s.step env (.letGo k)) (s.deeds env (.letGo k)) := by
  have ht := accounted_step env hs (.letGo k)
  rcases hk : s.held[k]? with _ | m
  · simp only [step, deeds, hk]
    exact did_nothing hs
  · simp only [step, deeds, hk] at ht ⊢
    exact did_release [] hs ht (alive_of_held hs hk) (fun _ => rfl) rfl
      (fun _ hx => absurd hx List.not_mem_nil) rfl rfl

lemma did_acquire (env : Environment σ) (hs : Accounted s.world.process s.held) :
    Did s (s.step env .acquire) (s.deeds env .acquire) := by
  have ht := accounted_step env hs .acquire
  have hbooks := Module.books_acquire env s.world
  simp only [step, deeds, deeds_acquire] at ht ⊢
  exact .acquired _ (has_of_references hs ht (fun j => by rw [hbooks.references]) hbooks.attempts)

lemma did_giveBack (env : Environment σ) (hs : Accounted s.world.process s.held) :
    Did s (s.step env .giveBack) (s.deeds env .giveBack) := by
  have ht := accounted_step env hs .giveBack
  by_cases hnone : s.acquired = 0
  · simp only [step, deeds, if_pos hnone]
    exact did_nothing hs
  · have hbooks := Module.books_giveBack env s.world
    simp only [step, deeds, if_neg hnone, deeds_giveBack] at ht ⊢
    exact .gaveBack _ (Nat.pos_of_ne_zero hnone)
      (has_of_references hs ht (fun j => by rw [hbooks.references]) hbooks.attempts)

/-- **What a step does.** It works with live modules, or it is a load, the end of a module, or the
taking or giving back of a reference to the loading subsystem. -/
theorem did_step (env : Environment σ) (hs : Accounted s.world.process s.held) (st : Step σ) :
    Did s (s.step env st) (s.deeds env st) := by
  have ht := accounted_step env hs st
  cases st with
  | call o =>
    cases o with
    | load loader path => exact did_load env hs loader path
    | onModule h o =>
      by_cases ho : o = .unload
      · subst ho
        exact did_unload env hs h
      · exact did_work hs ht (o.works hs ho) (o.steady hs ho) rfl
    | onSlot h k o => exact did_work hs ht (o.works hs) (o.steady hs) rfl
  | hold h => exact did_hold env hs h
  | use k o => exact did_use env hs k o
  | letGo k => exact did_letGo env hs k
  | acquire => exact did_acquire env hs
  | giveBack => exact did_giveBack env hs
  | change f => exact did_work hs ht (fun _ hd => absurd hd List.not_mem_nil) (Steady.refl _) rfl

/-! ### Process and outside -/

/-- A step that changes nothing outside by itself is the run of a program. -/
lemma exists_program (env : Environment σ) (s : Site σ) {st : Step σ} (hst : ∀ f, st ≠ .change f) :
    ∃ (α : Type) (p : Program α), s.deeds env st = p.deeds env s.world ∧
      (s.step env st).world = (p.run env s.world).2 := by
  cases st with
  | call o => exact ⟨_, o.program, rfl, rfl⟩
  | hold h =>
    refine ⟨_, Host.hold h, rfl, ?_⟩
    rcases hf : s.world.process.modules.find? h with _ | m
    · rw [step, run_hold_stale hf]
    · rw [step, run_hold hf]
  | use k o =>
    rcases hk : s.held[k]? with _ | m
    · exact ⟨Unit, pure (), by simp only [deeds, hk, deeds_pure], by simp only [step, hk, run_pure]⟩
    · exact ⟨_, o.program m, by simp only [deeds, hk], by simp only [step, hk]⟩
  | letGo k =>
    rcases hk : s.held[k]? with _ | m
    · exact ⟨Unit, pure (), by simp only [deeds, hk, deeds_pure], by simp only [step, hk, run_pure]⟩
    · exact ⟨_, m.release, by simp only [deeds, hk], by simp only [step, hk]⟩
  | acquire => exact ⟨_, Loading.acquire, rfl, rfl⟩
  | giveBack =>
    by_cases hnone : s.acquired = 0
    · exact ⟨Unit, pure (), by simp only [deeds, if_pos hnone, deeds_pure],
        by simp only [step, if_pos hnone, run_pure]⟩
    · exact ⟨_, Loading.release, by simp only [deeds, if_neg hnone],
        by simp only [step, if_neg hnone]⟩
  | change f => exact absurd rfl (hst f)

/-- The deeds of a step lead from the process before it to the one after it. -/
lemma process_step (env : Environment σ) (s : Site σ) (st : Step σ) :
    (s.step env st).world.process = (s.deeds env st).foldl Deed.leave s.world.process := by
  by_cases hchange : ∃ f, st = .change f
  · obtain ⟨f, rfl⟩ := hchange
    rfl
  · obtain ⟨α, p, hdeeds, hworld⟩ := s.exists_program env fun f hf => hchange ⟨f, hf⟩
    rw [hdeeds, hworld]
    exact run_process env p s.world

/-- What lies outside answers the requests of a step and does nothing else meanwhile. -/
lemma outside_step (env : Environment σ) (s : Site σ) {st : Step σ} (hst : ∀ f, st ≠ .change f) :
    Answered env s.world.outside (s.deeds env st) (s.step env st).world.outside := by
  obtain ⟨α, p, hdeeds, hworld⟩ := s.exists_program env hst
  rw [hdeeds, hworld]
  exact answered_deeds env p s.world

end Site

end Host

end Cryptoki
