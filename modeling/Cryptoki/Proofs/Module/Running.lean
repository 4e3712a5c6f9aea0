import Cryptoki.Proofs.Library.Ledger
import Cryptoki.Proofs.Module.Loading

/-!
A load of the library in memory leaves it running.

A load that succeeds has initialized the library, so it runs, and the module made in the load knows
the functions that the library lists. The library goes on to behave as it did.
-/

namespace Cryptoki.Module

open Process Program Simulated

variable {m : Module} {w : World Timeline} {path : String} {loader : Loader}

/-- An initialization that succeeds leaves the library running. -/
lemma running_init {args : Option InitArgs} {s : State} (h : (init args s).1 = .ok) :
    (init args s).2.running ∧ (init args s).2.behaviour = s.behaviour := by
  have hinits := inits s args
  generalize init args s = r at h hinits
  obtain ⟨code, t⟩ := r
  obtain rfl : code = .ok := h
  cases hinits with
  | starts c =>
    show (Simulated.start _).running ∧ (Simulated.start _).behaviour = _
    unfold Simulated.start
    split_ifs
    · exact ⟨rfl, rfl⟩
    · exact ⟨rfl, rfl⟩
  | fails c code idle same failed => exact absurd rfl failed
  | repeats c running => exact ⟨decide_eq_true (Nat.succ_pos _), rfl⟩
  | refused c code running same kept failed => exact absurd rfl failed

/-- A library that lists its functions lists those of its behaviour. -/
lemma listed_functions {s : State} {l : FunctionList}
    (h : getFunctionList true s = ⟨.ok, some l⟩) : l = functionList s.behaviour := by
  rw [getFunctionList] at h
  split_ifs at h
  · cases congrArg Reply.written h
  · cases congrArg Reply.written h
  · cases h
    rfl

/-- The library behaves so and runs, and the module knows its functions. -/
structure Runs (m : Module) (b : Behaviour) (t : Timeline) : Prop where
  behaviour : t.library.behaviour = b
  running : t.library.running
  functions : m.functions = functionList b

/-! ### From the last stages to the whole load -/

lemma runs_begin {id : ModuleId} {name : String} {l : FunctionList}
    (hl : l = functionList w.outside.library.behaviour)
    (hm : ((begin id name l).run environment w).1 = .ok m) :
    m.Runs w.outside.library.behaviour ((begin id name l).run environment w).2.outside := by
  obtain ⟨-, -, rfl, -⟩ := made_begin environment id name l w hm
  rw [begin, run_bind, run_call] at hm ⊢
  split_ifs at hm ⊢ with hstarted
  · cases hm
  rw [run_bind, run_call] at hm ⊢
  split_ifs at hm ⊢ with htold
  · cases hm
  · obtain ⟨hrunning, hbehaviour⟩ := running_init (not_not.mp hstarted)
    exact ⟨hbehaviour, hrunning, hl⟩

lemma runs_ofLibrary {id : ModuleId} {name : String}
    (hm : ((ofLibrary id name).run environment w).1 = .ok m) :
    m.Runs w.outside.library.behaviour ((ofLibrary id name).run environment w).2.outside := by
  have hfound : environment.answer (.lookUp id Function.entryPoint.name) w.outside =
      (lookUp id Function.entryPoint.name w.outside.library, w.outside) := rfl
  have hlisted : environment.answer (.call id (.getFunctionList true)) w.outside =
      (getFunctionList true w.outside.library, w.outside) := rfl
  rw [ofLibrary, run_bind, run_ask, hfound] at hm ⊢
  generalize lookUp id Function.entryPoint.name w.outside.library = found at hm ⊢
  obtain reason | _ := found
  · cases hm
  dsimp only at hm ⊢
  rw [run_bind, run_call, hlisted] at hm ⊢
  rcases hr : getFunctionList true w.outside.library with ⟨code, written⟩
  rw [hr] at hm
  dsimp only at hm ⊢
  split_ifs at hm ⊢ with hcode
  · cases hm
  rcases written with _ | l
  · cases hm
  rw [not_not.mp hcode] at hr
  rcases hmissing : l.missing? with _ | f
  · simp only [checkFunctions, hmissing] at hm ⊢
    exact runs_begin (listed_functions hr) hm
  · simp only [checkFunctions, hmissing] at hm
    cases hm

lemma behaviour_openLibrary (loader : Loader) (id : ModuleId) (path : String) (t : Timeline) :
    (environment.answer (.openLibrary loader id path) t).2.library.behaviour =
      t.library.behaviour := by
  show (openLibrary id path t.library).2.behaviour = _
  rw [openLibrary]
  split_ifs
  · rfl
  · rfl

lemma outside_acquire {σ : Type} (env : Environment σ) (w : World σ) :
    (Loading.acquire.run env w).2.outside = w.outside := by
  rw [Loading.acquire, run_bind, run_touch]
  split_ifs
  · rfl
  · rfl

/-- A load that succeeds leaves the library running. -/
lemma runs_load (hm : ((load loader path).run environment w).1 = .ok m) :
    m.Runs w.outside.library.behaviour ((load loader path).run environment w).2.outside := by
  rw [load, run_bind, run_bind, run_touch, run_bind, run_ask] at hm ⊢
  rw [← outside_acquire environment w]
  generalize (Loading.acquire.run environment w).2 = v at hm ⊢
  have hbehaviour := behaviour_openLibrary loader (Access.apply v.process .newModule).1 path
    v.outside
  generalize environment.answer (.openLibrary loader _ path) _ = opened at hm hbehaviour ⊢
  obtain ⟨reason | _, outside⟩ : Except String Unit × Timeline := opened
  · rw [run_bind, run_bind, run_pure] at hm
    cases hm
  dsimp only at hm hbehaviour ⊢
  rw [run_bind] at hm ⊢
  -- The other stages find the library behave as it did before it was opened.
  rw [← hbehaviour]
  generalize hr : (ofLibrary _ path).run environment _ = r at hm ⊢
  obtain ⟨f | n, u⟩ := r
  · rw [run_bind, run_bind, run_pure] at hm
    cases hm
  · cases hm
    have hruns := runs_ofLibrary (congrArg Prod.fst hr)
    rw [hr] at hruns
    exact hruns

end Cryptoki.Module
