import Cryptoki.Proofs.Host.Balance
import Cryptoki.Proofs.Host.Failures
import Cryptoki.Proofs.Probe.Stages

/-!
A run of the probe leaves nothing behind.

Commands do not clean up: one that fails in the middle leaves its slots registered and its session
open. But all that a command can leave belongs to the module of the run, which is unloaded however
the command ended, and takes its slots and the library along. So it is enough to know what a command
cannot touch: the modules, the references to them, and the slots of other modules.
-/

namespace Cryptoki

open Installed Process Program

/-! ### Initializations and finalizations -/

/-- A library is to finalize itself. -/
def Request.finalizes : Request → Bool
  | .call _ (.finalize _) => true
  | _ => false

namespace Deed

/-- A library was asked to finalize itself. -/
def finalizes (d : Deed) : Bool := d.request?.any Request.finalizes

/-- A library was asked to initialize itself and did. -/
def initializes : Deed → Bool
  | .asked (.call _ (.init _)) code => code = Code.ok
  | _ => false

lemma count_finalizes {d : List Deed} {requests : List Request}
    (h : d.map request? = requests.map some) :
    d.countP finalizes = requests.countP Request.finalizes := by
  have hcount : (d.map request?).countP (Option.any Request.finalizes) =
      (requests.map some).countP (Option.any Request.finalizes) := by rw [h]
  rwa [List.countP_map, List.countP_map] at hcount

lemma request_of_initializes {x : Deed} (h : x.initializes = true) :
    ∃ j args, x.request? = some (.call j (.init args)) := by
  cases x with
  | accessed a x => cases h
  | asked r x =>
    cases r with
    | call j c =>
      cases c with
      | init args => exact ⟨j, args, rfl⟩
      | _ => cases h
    | _ => cases h

/-- Where no library is to initialize or to finalize itself, none does. -/
lemma count_idle {d : List Deed}
    (h : ∀ x ∈ d, ∀ r, x.request? = some r → ∃ j, r.CallsOf j) :
    d.countP initializes = 0 ∧ d.countP finalizes = 0 := by
  refine ⟨List.countP_eq_zero.mpr fun x hx hinit => ?_,
    List.countP_eq_zero.mpr fun x hx hfinal => ?_⟩
  · obtain ⟨j, args, hr⟩ := request_of_initializes hinit
    obtain ⟨k, -, hordinary⟩ := h x hx _ hr
    exact hordinary
  · rcases hr : x.request? with _ | r
    · rw [finalizes, hr] at hfinal
      cases hfinal
    rw [finalizes, hr] at hfinal
    obtain ⟨k, hcalls⟩ := h x hx r hr
    cases r with
    | call j c =>
      cases c with
      | finalize reserved => exact hcalls.2
      | _ => cases hfinal
    | _ => cases hfinal

end Deed

namespace Module

variable {loader : Loader} {id : ModuleId} {path : String} {stages : List Stage} {d : List Deed}
  {last : Option (Stage × Fault)}

/-- A stage of a load that is passed initializes the library if it is the one that starts it. -/
lemma Stage.count_passed (s : Stage) (x : (s.request loader id path).Answer)
    (hpass : s.refusal loader id path x = none) :
    s.before.2 + [Deed.asked (s.request loader id path) x].countP Deed.initializes =
      s.after.2 + [Deed.asked (s.request loader id path) x].countP Deed.finalizes := by
  cases s with
  | starting =>
    have hcode : x = Code.ok := by
      by_contra hcode
      exact absurd (hpass.symm.trans (if_pos hcode)) (by simp)
    subst hcode
    rfl
  | _ => rfl

/-- One that is refused takes back what was initialized before. -/
lemma Stage.count_refused (s : Stage) (x : (s.request loader id path).Answer) {f : Fault}
    {undone : List Deed} (hrefused : s.refusal loader id path x = some f)
    (hundone : undone.map Deed.request? = (s.undoing id).map some) :
    s.before.2 + (Deed.asked (s.request loader id path) x :: undone).countP Deed.initializes =
      (Deed.asked (s.request loader id path) x :: undone).countP Deed.finalizes := by
  have hundoing : undone.countP Deed.initializes = 0 := by
    refine List.countP_eq_zero.mpr fun y hy hinit => ?_
    obtain ⟨j, args, hr⟩ := Deed.request_of_initializes hinit
    have hmem : some (Request.call j (.init args)) ∈ (s.undoing id).map some :=
      hr ▸ hundone ▸ List.mem_map_of_mem hy
    cases s <;> simp [Stage.undoing, Stage.finalizing] at hmem
  rw [List.countP_cons, List.countP_cons, hundoing, Deed.count_finalizes hundone]
  cases s with
  | starting =>
    have hcode : x ≠ Code.ok := fun hcode =>
      absurd (hrefused.symm.trans (if_neg (not_not.mpr hcode))) (by simp)
    have hno : (Deed.asked (Stage.starting.request loader id path) x).initializes = false :=
      decide_eq_false hcode
    rw [hno]
    rfl
  | _ => rfl

/-- A load that is refused finalizes the library exactly if it has initialized it. -/
lemma Course.count_initializes (h : Course loader id path (Stage.undoing id) stages d last)
    (hstages : stages <:+ Stage.all) :
    (reached stages).2 + d.countP Deed.initializes =
      d.countP Deed.finalizes + if last.isNone then 1 else 0 := by
  induction h with
  | through => rfl
  | @passed s stages x d last hpass hrest ih =>
    have hlater := ih ((List.suffix_cons _ _).trans hstages)
    have hcount := s.count_passed x hpass
    rw [reached_of_suffix hstages] at hlater
    show s.before.2 + ([_] ++ d).countP _ = ([_] ++ d).countP _ + _
    rw [List.countP_append, List.countP_append]
    omega
  | refused s x f undone hrefused hundone => exact s.count_refused x hrefused hundone

end Module

namespace Probe

open Host

variable {σ : Type} {env : Environment σ} {w : World σ} {held : List Module} {h : Handle}
  {loader : Loader} {settings : Settings} {c : CommandLine.Command} {patience : ℕ}

/-! ### What a command cannot touch -/

lemma Permitted.target {secret : Option Bytes} {o : Operation} (ho : Permitted h secret o) :
    o.target = some h := by
  cases o with
  | load loader path => exact ho.elim
  | onModule k o => exact congrArg some ho.1
  | onSlot k s o => exact congrArg some ho.1

/-- An operation of a command leaves the slots of other modules as they are. -/
lemma Permitted.others {secret : Option Bytes} {o : Operation} (ho : Permitted h secret o)
    (hw : Accounted w.process held) (f : Slot → Bool) (hf : ∀ id, f ⟨id, h⟩ = false) :
    (o.program.run env w).2.process.slots.count f = w.process.slots.count f := by
  have houtcome : Outcome w.process (o.program.run env w).2.process (some h) :=
    ho.target ▸ o.outcome hw
  exact houtcome.others (ho.steady hw).modules f hf

lemma others_command (env : Environment σ) (h : Handle) (settings : Settings) (patience : ℕ)
    (c : CommandLine.Command) (hw : Accounted w.process held) (f : Slot → Bool)
    (hf : ∀ id, f ⟨id, h⟩ = false) :
    ((command h settings patience c).run env w).2.process.slots.count f =
      w.process.slots.count f := by
  have hkept := (calls_command h settings patience c).run_keeps
    (I := fun u => Accounted u.process held ∧
      u.process.slots.count f = w.process.slots.count f) env
    (fun o u ho hu => ⟨accounted_operation o hu.1,
      (ho.others hu.1 f hf).trans hu.2⟩) ⟨hw, rfl⟩
  exact hkept.2

/-- A command neither initializes a library nor finalizes one. -/
lemma count_command (env : Environment σ) (h : Handle) (settings : Settings) (patience : ℕ)
    (c : CommandLine.Command) (hw : Accounted w.process held) :
    ((command h settings patience c).asked env w).countP Deed.initializes = 0 ∧
      ((command h settings patience c).asked env w).countP Deed.finalizes = 0 := by
  have hdeeds := (calls_command h settings patience c).deeds
    (I := fun u => Accounted u.process held)
    (D := fun x => ∀ r, x.request? = some r → ∃ j, r.CallsOf j) env ?_ hw
  · exact Deed.count_idle fun x hx => hdeeds x (List.mem_filter.mp hx).1
  intro o u ho hu
  refine ⟨accounted_operation o hu, fun x hx r hr => ?_⟩
  have hworks : x.Works u.process := by
    cases o with
    | load loader path => exact ho.elim
    | onModule k o => exact o.works hu ho.2 x hx
    | onSlot k s o => exact o.works hu x hx
  cases x with
  | accessed a x => cases hr
  | asked q x =>
    cases hr
    obtain ⟨j, -, hcalls⟩ := hworks
    exact ⟨j, hcalls⟩

/-! ### Before and after -/

/-- The load of a run initializes its library once more than it finalizes it if it succeeds, and
just as often if it does not. -/
lemma count_load (env : Environment σ) (loader : Loader) (path : String) (w : World σ) :
    ((load loader path).asked env w).countP Deed.initializes =
      ((load loader path).asked env w).countP Deed.finalizes +
        if ((load loader path).run env w).1.toBool then 1 else 0 := by
  by_cases hpath : path = ""
  · subst hpath
    rfl
  obtain ⟨last, hcourse, hanswer⟩ := course_load env loader hpath w
  have hcount := hcourse.count_initializes (List.suffix_refl _)
  have hlast : last.isNone = ((load loader path).run env w).1.toBool := by
    rcases last with _ | ⟨stage, f⟩
    · obtain ⟨h, hr⟩ := Module.fault?_eq_none.mp hanswer
      rw [hr]
      rfl
    · rw [Module.fault?_eq_some.mp hanswer]
      rfl
  rw [hlast] at hcount
  exact (Nat.zero_add _).symm.trans hcount

/-- There are as many modules and slots as there were, and as many references to each module and to
the loading subsystem. -/
structure Restored (p q : Process) : Prop where
  modules : q.modules.size = p.modules.size
  slots : q.slots.size = p.slots.size
  loading : q.loading = p.loading
  references : ∀ j, q.references j = p.references j

lemma restored_done {m : Module} {p v u q : Process} (hp : Accounted p held)
    (hq : Accounted q held) (hmoored : Moored p)
    (hroom : p.modules.entries.size < Handle.Table.capacity) (hjoined : Joined p v h m)
    (hsteady : v.Steady u) (hparted : Parted u q h m)
    (hothers : ∀ f : Slot → Bool, (∀ id, f ⟨id, h⟩ = false) → u.slots.count f = v.slots.count f) :
    Restored p q where
  modules := by
    have hfind : u.modules.find? h = some m := by rw [hsteady.modules, hjoined.find hp hroom]
    have hadded := hp.modules.sound.count_insert m fun _ => true
    have hgone := Handle.Table.count_remove hfind fun _ => true
    rw [hsteady.modules, hjoined.modules, hadded] at hgone
    rw [hq.modules.sound.size_eq_count, hp.modules.sound.size_eq_count, hparted.modules,
      hsteady.modules, hjoined.modules]
    exact Nat.add_right_cancel hgone
  slots := by
    have hfresh : p.modules.find? h = none := by
      rw [hjoined.handle]
      exact hp.modules.sound.find?_insert_fst m (Handle.Table.fits_insert hroom m)
    have hnone : p.slots.count (fun k => k.module == h) = 0 := hmoored h hfresh
    have hsplit := p.slots.count_add_count_not fun k => k.module == h
    rw [hnone, Nat.zero_add] at hsplit
    rw [hq.slots.sound.size_eq_count, hp.slots.sound.size_eq_count, hparted.slots,
      Handle.Table.count_removeWhere, hothers _ fun id => by simp, hjoined.slots]
    exact hsplit
  loading := by
    rw [hparted.loading, hsteady.loading, hjoined.loading, Nat.add_sub_cancel]
  references j := by
    rw [hparted.references, hsteady.references, hjoined.references, Nat.add_sub_cancel]

/-- **A run restores the process.** However it ends, there is nothing more or less than before, and
its library has been finalized as often as it was initialized. -/
lemma restored_run (env : Environment σ) (loader : Loader) (settings : Settings)
    (c : CommandLine.Command) (patience : ℕ) (hw : Accounted w.process held)
    (hmoored : Moored w.process) (hroom : w.process.modules.entries.size < Handle.Table.capacity)
    (hfinished : ((run loader settings c patience).run env w).1.isSome) :
    Accounted ((run loader settings c patience).run env w).2.process held ∧
      Restored w.process ((run loader settings c patience).run env w).2.process ∧
      ((run loader settings c patience).asked env w).countP Deed.initializes =
        ((run loader settings c patience).asked env w).countP Deed.finalizes := by
  have hcount := count_load env loader settings.libraryPath w
  have hloaded : Accounted ((load loader settings.libraryPath).run env w).2.process held :=
    accounted_load loader settings.libraryPath hw
  have hwent := went_run env loader settings c patience hw hroom
  generalize (run loader settings c patience).run env w = r at hfinished hwent ⊢
  generalize (run loader settings c patience).asked env w = d at hwent ⊢
  cases hwent with
  | waiting hload hcommand => cases hfinished
  | @refused f v hload =>
    have hintact := intact_load env loader settings.libraryPath w (congrArg Prod.fst hload)
    rw [hload] at hintact hcount hloaded
    refine ⟨hloaded, ⟨?_, ?_, hintact.loading, fun j => ?_⟩, hcount⟩
    · exact congrArg Handle.Table.size hintact.modules
    · exact congrArg Handle.Table.size hintact.slots
    · exact congrArg Share.references (hintact.shares j)
  | @done h m v u t r code hload hmade hjoined hcommand hsteady hunload hparted =>
    rw [hload] at hcount hloaded
    have hworked := (steady_command env h settings patience c hloaded).1
    have hothers := others_command env h settings patience c hloaded
    obtain ⟨hinit, hfinal⟩ := count_command env h settings patience c hloaded
    rw [hcommand] at hworked hothers
    have ht : Accounted ((Host.unload h).run env u).2.process held :=
      accounted_moduleOp h .unload hworked
    rw [hunload] at ht
    refine ⟨ht, restored_done hw ht hmoored hroom hjoined hsteady hparted hothers, ?_⟩
    rw [List.countP_append, List.countP_append, List.countP_append, List.countP_append, hinit,
      hfinal, hcount]
    rfl

/-! ### The library in memory -/

section Mock

variable {s : Site (Beside Simulated.Timeline)}

/-- A run keeps count of the library: each of its parts does. -/
lemma counted_run (hs : s.Counted) (loader : Loader) (settings : Settings)
    (c : CommandLine.Command) (patience : ℕ)
    (hroom : s.world.process.modules.entries.size < Handle.Table.capacity) :
    Site.Counted
      { s with world := ((run loader settings c patience).run Site.mock s.world).2 } := by
  obtain ⟨w, held, acquired⟩ := s
  have hstep : ∀ (o : Operation) (v : World (Beside Simulated.Timeline)),
      Site.Counted ⟨v, held, acquired⟩ →
        Site.Counted ⟨(o.program.run Site.mock v).2, held, acquired⟩ := by
    intro o v hv
    have hfair : Step.Fair (.call o) := trivial
    exact (hv.step hfair).1
  have hload := hstep (.load loader settings.libraryPath) w hs
  have hcommand := fun h v (hv : Site.Counted ⟨v, held, acquired⟩) =>
    (calls_command h settings patience c).run_keeps
      (I := fun u => Site.Counted ⟨u, held, acquired⟩) Site.mock (fun o u _ hu => hstep o u hu) hv
  have hwent := went_run Site.mock loader settings c patience hs.accounted hroom
  generalize (run loader settings c patience).run Site.mock w = r at hwent ⊢
  generalize (run loader settings c patience).asked Site.mock w = d at hwent
  cases hwent with
  | @refused f v hloaded =>
    rw [Operation.program, hloaded] at hload
    exact hload
  | @waiting h v u hloaded hended =>
    rw [Operation.program, hloaded] at hload
    have hafter := hcommand h v hload
    rwa [hended] at hafter
  | @done h m v u t r code hloaded hmade hjoined hended hsteady hunload hparted =>
    rw [Operation.program, hloaded] at hload
    have hafter := hcommand h v hload
    rw [hended] at hafter
    have hleft := hstep (.onModule h .unload) u hafter
    rwa [Operation.program, ModuleOp.program, hunload] at hleft

/-- The library has been closed as often as it has been opened between the two states, its mutexes
have been destroyed as often as made, and it is initialized as often as it was. -/
structure Evened (s t : Simulated.State) : Prop where
  libraries : t.calls.opened + s.calls.closed = t.calls.closed + s.calls.opened
  mutexes : t.calls.mutexesCreated + s.calls.mutexesDestroyed =
    t.calls.mutexesDestroyed + s.calls.mutexesCreated
  instances : t.instances = s.instances

lemma evened_counted {t : Site (Beside Simulated.Timeline)} (hs : s.Counted) (ht : t.Counted)
    (hsame : t.population = s.population) :
    Evened s.world.outside.supplied.library t.world.outside.supplied.library := by
  obtain ⟨-, hopened, hinstances, hmutexes⟩ := hs.balanced
  obtain ⟨-, topened, tinstances, tmutexes⟩ := ht.balanced
  rw [hsame] at topened tinstances tmutexes
  exact ⟨by omega, by omega, tinstances.trans hinstances.symm⟩

end Mock

/-- **Every finished run leaves nothing behind.** In a process that has been used in any way before,
and whatever the library answers and becomes meanwhile, a run of any command that comes to an end,
with a report or with a failure, leaves as many modules and slots registered and as many references
out as there were, its library finalized as often as initialized, and the library in memory closed
as often as opened, with its mutexes destroyed. Where no module was alive, nothing at all is
left. -/
theorem run_leaves_nothing (b : Simulated.Behaviour)
    (changes : List (Simulated.Behaviour → Simulated.Behaviour)) (host : Files)
    (steps : List (Step (Beside Simulated.Timeline))) (hsteps : ∀ st ∈ steps, st.Fair)
    (loader : Loader) (settings : Settings) (c : CommandLine.Command) (patience : ℕ) :
    let s := (Site.initial ⟨⟨.fresh b, changes, 0⟩, [], host⟩).after Site.mock steps
    let r := (run loader settings c patience).run Site.mock s.world
    let d := (run loader settings c patience).asked Site.mock s.world
    s.world.process.modules.entries.size < Handle.Table.capacity → r.1.isSome →
      Restored s.world.process r.2.process ∧
        d.countP Deed.initializes = d.countP Deed.finalizes ∧
        Evened s.world.outside.supplied.library r.2.outside.supplied.library ∧
        ((∀ j, ¬ s.Live j) → Cleared { s with world := r.2 }) := by
  intro s r d hroom hfinished
  have hs : s.Counted := ((Site.counted_initial b changes host).after hsteps).1
  have hmoored : Moored s.world.process :=
    Site.moored_after Site.mock accounted_initial moored_initial steps
  obtain ⟨ht, hrestored, hcount⟩ :=
    restored_run Site.mock loader settings c patience hs.accounted hmoored hroom hfinished
  have hcounted := counted_run hs loader settings c patience hroom
  set t : Site (Beside Simulated.Timeline) := { s with world := r.2 }
  have hlive : ∀ j, t.Live j ↔ s.Live j := fun j => by
    rw [Site.live_iff ht, Site.live_iff hs.accounted]
    show 0 < r.2.process.references j ↔ _
    rw [hrestored.references]
  have hsame : t.population = s.population := congrArg Set.ncard (Set.ext hlive)
  exact ⟨hrestored, hcount, evened_counted hs hcounted hsame,
    fun hnone => hcounted.balanced.cleared fun j hj => hnone j ((hlive j).mp hj)⟩

/-! ### A token that comes late -/

/-- Settings that name a library and leave the rest to the defaults. -/
def plain : Settings := .complete ⟨none, none⟩ .nothing "libmock.so"

/-- A library that reports no events and has no token in its slot, and that fails to finalize. -/
def tokenless : Simulated.Behaviour :=
  { Simulated.Behaviour.standard with
    eventCode := .functionNotSupported, places := [⟨0, none⟩], finalizeCode := ⟨0x30⟩ }

/-- The token comes at the second look. -/
def arriving : List (Simulated.Behaviour → Simulated.Behaviour) :=
  [id, fun b => { b with places := [⟨0, some "late"⟩] }]

/-- A new process. -/
def waitingRoom : Site (Beside Simulated.Timeline) :=
  .initial ⟨⟨.fresh tokenless, arriving, 0⟩, [], ⟨[], []⟩⟩

/-- The run ends after two looks and leaves nothing, though the library says that it was not
finalized. -/
theorem run_leaves_nothing_of_late_token :
    let r := (run .supplied plain .wait 3).run Site.mock waitingRoom.world
    r.1 = some (.ok ["Slot event in slot 0: Mock slot 0", "  Token 'late'"]) ∧
      r.2.outside.supplied.slept = 2 ∧
      Restored waitingRoom.world.process r.2.process ∧
      Cleared { waitingRoom with world := r.2 } := by
  intro r
  have hnone : ∀ j, ¬ waitingRoom.Live j := fun j hj =>
    absurd (hj.lt accounted_initial) (Nat.not_lt_zero j)
  obtain ⟨hrestored, -, -, hcleared⟩ := run_leaves_nothing tokenless arriving ⟨[], []⟩ []
    (fun _ hst => absurd hst List.not_mem_nil) .supplied plain .wait 3 (by decide) rfl
  exact ⟨by decide, rfl, hrestored, hcleared hnone⟩

end Probe

end Cryptoki
