import Cryptoki.Library.Installed
import Cryptoki.Library.Simulated
import Cryptoki.Proofs.Module.Bounds
import Cryptoki.Proofs.Module.Loading

/-!
What the library in memory keeps count of.

Two numbers tell where it stands: how often it is open, and how often it is initialized. A load
takes both up by one stage after stage, and takes back what it took up if it is refused. The mutex
follows from the second number, since a library has one exactly while it is initialized.
-/

namespace Cryptoki

open Cryptoki.Module

namespace Simulated

/-- The library is open so many times and initialized so many times. As long as it is initialized
it has the callbacks and a mutex, the only one that was made and not destroyed yet. -/
structure Tally (o i : ℕ) (s : State) : Prop where
  opened : s.calls.opened = s.calls.closed + o
  instances : s.instances = i
  callbacks : 0 < i → s.calls.callbacks = true
  mutex : s.mutex = decide (0 < i)
  mutexes : s.calls.mutexesCreated = s.calls.mutexesDestroyed + if i = 0 then 0 else 1

variable {o i : ℕ} {s : State}

lemma tally_fresh (b : Behaviour) : Tally 0 0 (.fresh b) :=
  ⟨rfl, rfl, fun h => absurd h (Nat.lt_irrefl 0), rfl, rfl⟩

lemma Tally.openLibrary_ok (h : Tally o i s) {id : ModuleId} {path : String}
    (hok : (openLibrary id path s).1 = .ok ()) : Tally (o + 1) i (openLibrary id path s).2 := by
  unfold openLibrary at hok ⊢
  split_ifs at hok ⊢
  exact ⟨congrArg (· + 1) h.opened, h.instances, h.callbacks, h.mutex, h.mutexes⟩

lemma Tally.openLibrary_error (h : Tally o i s) {id : ModuleId} {path reason : String}
    (herror : (openLibrary id path s).1 = .error reason) : Tally o i (openLibrary id path s).2 := by
  unfold openLibrary at herror ⊢
  split_ifs at herror ⊢
  exact h

lemma Tally.closeLibrary (h : Tally (o + 1) i s) : Tally o i (closeLibrary s) :=
  ⟨h.opened.trans (Nat.succ_add _ _).symm, h.instances, h.callbacks, h.mutex, h.mutexes⟩

/-- An initialization with all callbacks makes a mutex exactly if there is none. -/
lemma Tally.init_ok (h : Tally o i s) (hok : (init (some .standard) s).1 = .ok) :
    Tally o (i + 1) (init (some .standard) s).2 := by
  obtain ⟨hopened, rfl, hcallbacks, hmutex, hmutexes⟩ := h
  unfold init launch at hok ⊢
  rcases hinstances : s.instances with _ | n
  · rw [hinstances] at hmutexes
    simp only [State.running, hinstances, gt_iff_lt, lt_self_iff_false, decide_false,
      Bool.false_eq_true, if_false] at hok ⊢
    split_ifs at hok ⊢ with hcode hmade
    · exact absurd hok hcode
    · exact absurd hok hmade
    · exact ⟨hopened, rfl, fun _ => rfl, rfl, congrArg (· + 1) hmutexes⟩
  · rw [hinstances] at hcallbacks hmutex hmutexes
    simp only [State.running, hinstances, gt_iff_lt, Nat.zero_lt_succ, decide_true, if_true]
      at hok ⊢
    split_ifs at hok ⊢ with hagain
    · exact ⟨hopened, rfl, fun _ => hcallbacks (Nat.succ_pos n), hmutex, hmutexes⟩
    · cases hok

/-- An initialization that is refused may have taken over the callbacks, but only if the library
was not initialized. -/
lemma Tally.init_refused (h : Tally o i s) (hcode : (init (some .standard) s).1 ≠ .ok) :
    Tally o i (init (some .standard) s).2 := by
  have htaken {c : Calls} (hrun : ¬ s.running = true) : 0 < i → c.callbacks = true := by
    intro hpos
    rw [← h.instances] at hpos
    exact absurd (decide_eq_true hpos) hrun
  unfold init launch at hcode ⊢
  dsimp only at hcode ⊢
  split_ifs at hcode ⊢ with hrun
  · exact absurd rfl hcode
  · exact ⟨h.opened, h.instances, h.callbacks, h.mutex, h.mutexes⟩
  · exact ⟨h.opened, h.instances, htaken hrun, h.mutex, h.mutexes⟩
  · exact ⟨h.opened, h.instances, htaken hrun, h.mutex, h.mutexes⟩
  · exact absurd rfl hcode

/-- The last finalization destroys the mutex, whatever code it returns. -/
lemma Tally.finalize (h : Tally o (i + 1) s) : Tally o i (finalize false s).2 := by
  obtain ⟨hopened, hinstances, hcallbacks, hmutex, hmutexes⟩ := h
  have htaken : s.calls.callbacks = true := hcallbacks (Nat.succ_pos i)
  unfold Simulated.finalize
  simp only [Bool.false_eq_true, if_false, hinstances]
  split_ifs with hlast
  · subst hlast
    rw [stop_of_mutex (s := { s with calls.finalize := s.calls.finalize + 1, instances := 0 })
      htaken hmutex]
    exact ⟨hopened, rfl, fun _ => htaken, rfl, hmutexes⟩
  · refine ⟨hopened, rfl, fun _ => htaken, hmutex.trans ?_, hmutexes.trans ?_⟩
    · simp [Nat.pos_of_ne_zero hlast]
    · simp [hlast]

lemma Tally.getInfo (h : Tally o i s) (place : Bool) : Tally o i (getInfo place s).2 :=
  ⟨h.opened, h.instances, h.callbacks, h.mutex, h.mutexes⟩

/-- However the library is to behave from now on, the numbers are what they are. -/
lemma Tally.change (h : Tally o i s) (b : Behaviour) : Tally o i { s with behaviour := b } :=
  ⟨h.opened, h.instances, h.callbacks, h.mutex, h.mutexes⟩

/-- Calls that have to do with slots or sessions leave the numbers as they are. -/
lemma Tally.serve (h : Tally o i s) {c : Call} (hc : c.Ordinary) : Tally o i (serve c s).2 := by
  have hsame : ∀ t : State, t.calls.opened = s.calls.opened → t.calls.closed = s.calls.closed →
      t.instances = s.instances → t.calls.callbacks = s.calls.callbacks → t.mutex = s.mutex →
      t.calls.mutexesCreated = s.calls.mutexesCreated →
      t.calls.mutexesDestroyed = s.calls.mutexesDestroyed → Tally o i t := by
    intro t hopened hclosed hinstances hcallbacks hmutex hcreated hdestroyed
    exact ⟨by rw [hopened, hclosed, h.opened], hinstances.trans h.instances,
      fun hpos => hcallbacks.trans (h.callbacks hpos), hmutex.trans h.mutex,
      by rw [hcreated, hdestroyed, h.mutexes]⟩
  cases c with
  | getFunctionList place => exact hc.elim
  | init args => exact hc.elim
  | finalize reserved => exact hc.elim
  | getInfo place => exact hc.elim
  | openSession slot flags application notify place =>
    simp only [Simulated.serve, openSession]
    split_ifs <;> exact hsame _ rfl rfl rfl rfl rfl rfl rfl
  | closeSession session =>
    simp only [Simulated.serve, closeSession]
    split_ifs <;> exact hsame _ rfl rfl rfl rfl rfl rfl rfl
  | _ => exact hsame _ rfl rfl rfl rfl rfl rfl rfl

end Simulated

/-! ### Loads and ends of modules -/

/-- How often a load has opened and initialized its library when a stage begins. -/
def Module.Stage.before : Stage → ℕ × ℕ
  | .opening => (0, 0)
  | .finding | .listing | .starting => (1, 0)
  | .telling => (1, 1)

/-- How often it has done so once the stage is passed. -/
def Module.Stage.after : Stage → ℕ × ℕ
  | .opening | .finding | .listing => (1, 0)
  | .starting | .telling => (1, 1)

namespace Installed

open Program

/-- The mock library is used by `n` modules, and by a load that has come so far. No installed
library is open. -/
structure Standing (n : ℕ) (more : ℕ × ℕ) (s : Beside Simulated.Timeline) : Prop where
  tally : Simulated.Tally (n + more.1) (n + more.2) s.supplied.library
  closed : ∀ j, s.opened.get? j = none

variable {n : ℕ} {more : ℕ × ℕ} {id : ModuleId} {path : String} {s t : Beside Simulated.Timeline}
  {d : List Deed} {last : Option (Stage × Fault)}

/-- An answer that leaves the numbers of the library as they are. -/
lemma Standing.supplied (h : Standing n more s) {u : Simulated.Timeline} {later : ℕ × ℕ}
    (hu : Simulated.Tally (n + later.1) (n + later.2) u.library) :
    Standing n later { s with supplied := u } := ⟨hu, h.closed⟩

lemma Standing.lookUp (h : Standing n more s) (symbol : String) :
    Standing n more (respond Simulated.environment (.lookUp id symbol) s).2 := by
  simp only [respond, h.closed id]
  exact h.supplied h.tally

lemma Standing.closeLibrary (h : Standing n (1, 0) s) :
    Standing n (0, 0) (respond Simulated.environment (.closeLibrary id) s).2 := by
  simp only [respond, h.closed id]
  exact h.supplied h.tally.closeLibrary

lemma Standing.finalize (h : Standing n (1, 1) s) :
    Standing n (1, 0) (respond Simulated.environment (.call id (.finalize false)) s).2 :=
  h.supplied h.tally.finalize

/-- A stage of a load that is passed. -/
lemma Standing.passed (stage : Stage) (h : Standing n stage.before s)
    (hpass : stage.refusal .supplied id path
      (respond Simulated.environment (stage.request .supplied id path) s).1 = none) :
    Standing n stage.after
      (respond Simulated.environment (stage.request .supplied id path) s).2 := by
  cases stage with
  | opening =>
    have hpass : Stage.opening.refusal .supplied id path
        (Simulated.openLibrary id path s.supplied.library).1 = none := hpass
    rcases hopened : (Simulated.openLibrary id path s.supplied.library).1 with reason | _
    · rw [hopened] at hpass
      cases hpass
    · exact h.supplied (h.tally.openLibrary_ok hopened)
  | finding => exact h.lookUp _
  | listing => exact h.supplied h.tally
  | starting =>
    refine h.supplied (h.tally.init_ok ?_)
    by_contra hcode
    exact absurd (hpass.symm.trans (if_pos hcode)) (by simp)
  | telling => exact h.supplied (h.tally.getInfo true)

/-- A stage of a load that is refused has done nothing itself. -/
lemma Standing.refused (stage : Stage) (h : Standing n stage.before s) {f : Fault}
    (hrefused : stage.refusal .supplied id path
      (respond Simulated.environment (stage.request .supplied id path) s).1 = some f) :
    Standing n stage.before
      (respond Simulated.environment (stage.request .supplied id path) s).2 := by
  cases stage with
  | opening =>
    have hrefused : Stage.opening.refusal .supplied id path
        (Simulated.openLibrary id path s.supplied.library).1 = some f := hrefused
    rcases hopened : (Simulated.openLibrary id path s.supplied.library).1 with reason | _
    · exact h.supplied (h.tally.openLibrary_error hopened)
    · rw [hopened] at hrefused
      cases hrefused
  | finding => exact h.lookUp _
  | listing => exact h.supplied h.tally
  | starting =>
    refine h.supplied (h.tally.init_refused fun hcode => ?_)
    exact absurd (hrefused.symm.trans (if_neg (not_not.mpr hcode))) (by simp)
  | telling => exact h.supplied (h.tally.getInfo true)

/-- What is undone is what was done before the stage. -/
lemma Standing.undone (stage : Stage) (h : Standing n stage.before s) :
    Standing n (0, 0) ((stage.undoing id).foldl
      (fun s r => (respond Simulated.environment r s).2) s) := by
  cases stage with
  | opening => exact h
  | telling => exact h.finalize.closeLibrary
  | _ => exact h.closeLibrary

/-- The stages that are left tell how far a load has come. -/
def reached : List Stage → ℕ × ℕ
  | [] => (1, 1)
  | stage :: _ => stage.before

lemma reached_of_suffix {stage : Stage} {stages : List Stage}
    (h : stage :: stages <:+ Stage.all) : reached stages = stage.after := by
  have hmem : stage :: stages ∈ Stage.all.tails := (List.mem_tails _ _).mpr h
  simp only [Stage.all, List.tails, List.mem_cons, List.cons.injEq, List.not_mem_nil, or_false,
    reduceCtorEq] at hmem
  rcases hmem with ⟨rfl, rfl⟩ | ⟨rfl, rfl⟩ | ⟨rfl, rfl⟩ | ⟨rfl, rfl⟩ | ⟨rfl, rfl⟩ <;> rfl

/-- A load of the mock library leaves it with one module more, or as it was. -/
lemma Standing.course {stages : List Stage}
    (hcourse : Course .supplied id path (Stage.undoing id) stages d last)
    (hstages : stages <:+ Stage.all) (h : Standing n (reached stages) s)
    (hd : Answered (beside Simulated.environment) s d t) :
    Standing n (if last.isNone then (1, 1) else (0, 0)) t := by
  induction hcourse generalizing s with
  | through =>
    cases hd
    exact h
  | passed stage x hpass hrest ih =>
    obtain ⟨rfl, hd⟩ := hd
    refine ih ((List.suffix_cons _ _).trans hstages) ?_ hd
    rw [reached_of_suffix hstages]
    exact h.passed stage hpass
  | @refused stage stages x f undone hrefused hundone =>
    obtain ⟨rfl, hd⟩ := hd
    rw [hd.outside_eq, Deed.requests_of_map hundone]
    exact (h.refused stage hrefused).undone stage

/-- An installed library has no entry point, so it is closed again. -/
lemma closed_of_installed {stages : List Stage} {file : String}
    (hcourse : Course .system id path (Stage.undoing id) (.finding :: stages) d last)
    (hopened : s.opened.get? id = some file)
    (hd : Answered (beside Simulated.environment) s d t) :
    last.isSome ∧ t = { s with opened := s.opened.erase id } := by
  have hfinding : respond Simulated.environment (.lookUp id "C_GetFunctionList") s =
      (.error (undefinedSymbol file "C_GetFunctionList"), s) := by simp only [respond, hopened]
  have hclosing : respond Simulated.environment (.closeLibrary id) s =
      ((), { s with opened := s.opened.erase id }) := by simp only [respond, hopened]
  cases hcourse with
  | passed _ x hpass hrest =>
    obtain ⟨rfl, -⟩ := hd
    have hrefusal := hpass.symm.trans (congrArg _ (congrArg Prod.fst hfinding))
    cases hrefusal
  | refused _ x f undone hrefused hundone =>
    obtain ⟨rfl, hd⟩ := hd
    refine ⟨rfl, ?_⟩
    rw [hd.outside_eq, Deed.requests_of_map hundone]
    show (respond Simulated.environment (.closeLibrary id)
      (respond Simulated.environment (.lookUp id "C_GetFunctionList") s).2).2 = _
    rw [hfinding, hclosing]

lemma respond_of_ok {file : String} (h : openLibrary s.host path = .ok file) :
    respond Simulated.environment (.openLibrary .system id path) s =
      (.ok (), { s with opened := s.opened.put id file }) := by
  simp only [respond, h]

lemma respond_of_error {reason : String} (h : openLibrary s.host path = .error reason) :
    respond Simulated.environment (.openLibrary .system id path) s = (.error reason, s) := by
  simp only [respond, h]

/-- A load of an installed library is refused. -/
lemma Standing.installed (hcourse : Course .system id path (Stage.undoing id) Stage.all d last)
    (h : Standing n (0, 0) s) (hd : Answered (beside Simulated.environment) s d t) :
    last.isSome ∧ Standing n (0, 0) t := by
  have hcourse : Course .system id path (Stage.undoing id)
    [.opening, .finding, .listing, .starting, .telling] d last := hcourse
  cases hcourse with
  | passed _ x hpass hrest =>
    obtain ⟨rfl, hd⟩ := hd
    rcases hopened : openLibrary s.host path with reason | file
    · have hrefusal := hpass.symm.trans (congrArg _ (congrArg Prod.fst (respond_of_error hopened)))
      cases hrefusal
    · have houtside : ((beside Simulated.environment).answer
          (.openLibrary .system id path) s).2 = { s with opened := s.opened.put id file } :=
        congrArg Prod.snd (respond_of_ok hopened)
      rw [houtside] at hd
      obtain ⟨hlast, rfl⟩ := closed_of_installed hrest (Assoc.get?_put_self _ _ _) hd
      refine ⟨hlast, h.tally, fun j => ?_⟩
      by_cases hj : j = id
      · rw [hj]
        exact Assoc.get?_erase_self _ _
      · exact (Assoc.get?_erase_of_ne _ hj).trans
          ((Assoc.get?_put_of_ne _ _ hj).trans (h.closed j))
  | refused _ x f undone hrefused hundone =>
    obtain ⟨rfl, hd⟩ := hd
    rw [hd.outside_eq, Deed.requests_of_map hundone]
    refine ⟨rfl, ?_⟩
    show Standing n (0, 0) (respond Simulated.environment (.openLibrary .system id path) s).2
    rcases hopened : openLibrary s.host path with reason | file
    · rw [respond_of_error hopened]
      exact h
    · have hrefusal := hrefused.symm.trans (congrArg _ (congrArg Prod.fst (respond_of_ok hopened)))
      cases hrefusal

lemma Standing.calls {r : Request} {j : ModuleId} (hr : r.CallsOf j) (h : Standing n more s) :
    Standing n more (respond Simulated.environment r s).2 := by
  cases r with
  | call k c => exact h.supplied (h.tally.serve hr.2)
  | sleep =>
    refine h.supplied (u := s.supplied.sleep) ?_
    unfold Simulated.Timeline.sleep
    split
    · exact h.tally
    · exact h.tally.change _
  | _ => exact hr.elim

end Installed

end Cryptoki
