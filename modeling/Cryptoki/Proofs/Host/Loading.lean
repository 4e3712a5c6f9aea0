import Cryptoki.Host
import Cryptoki.Library.Simulated
import Cryptoki.Proofs.Module.Loading

/-!
Loads that fail leave no trace.

A host that asks for a load is told which stage refused it and why, gets no handle, and finds
everything as it was. That holds above all of a library that other modules use: it is asked to
initialize itself, says that it is in use, and is closed again without having been finalized.
-/

namespace Cryptoki

open Program

namespace Host

open Cryptoki.Module

variable {σ : Type}

/-- A load that was refused at a stage with a fault: the fault is answered, a library is finalized
exactly if it was the last stage and closed last exactly if it was opened, and the process is as it
was but for the number of the load. -/
structure TakenBack (env : Environment σ) (w : World σ) (p : Program (Except Fault Handle))
    (s : Stage) (f : Fault) : Prop where
  answer : (p.run env w).1 = .error f
  finalized : (p.requests env w).count (.call w.process.attempts (.finalize false)) =
    if s = .telling then 1 else 0
  closed : (p.requests env w).count (.closeLibrary w.process.attempts) =
    if s = .opening then 0 else 1
  closed_last : s ≠ .opening →
    (p.requests env w).getLast? = some (.closeLibrary w.process.attempts)
  process : (p.run env w).2.process = { w.process with attempts := w.process.attempts + 1 }

variable {env : Environment σ} {loader : Loader} {path : String} {w : World σ}

/-- How a load ends: with a module that is adopted and registered, or with a fault, after the
loading subsystem was given back. -/
def Settled (env : Environment σ) (w : World σ) (p : Program (Except Fault Handle)) :
    Option (Stage × Fault) → List Deed → Prop
  | none, rest => ∃ m handle, (p.run env w).1 = .ok handle ∧
      rest = [.accessed (.adopt w.process.attempts) (), .accessed (.insertModule m) handle]
  | some (_, f), rest => (p.run env w).1 = .error f ∧
      ∃ released, rest = [.accessed .releaseLoading released]

lemma deeds_load (env : Environment σ) (loader : Loader) (hpath : path ≠ "") (w : World σ) :
    ∃ d last rest, Course loader w.process.attempts path (Stage.undoing w.process.attempts)
        Stage.all d last ∧ Settled env w (Host.load loader path) last rest ∧
      (Host.load loader path).deeds env w =
        .accessed .acquireLoading (Process.Access.apply w.process .acquireLoading).1 ::
          .accessed .newModule w.process.attempts :: (d ++ rest) := by
  obtain ⟨d, last, released, hcourse, hanswer, hdeeds⟩ := Module.deeds_load env loader path w
  have hempty : path.isEmpty = false := by simpa using hpath
  rw [Host.load, hempty]
  simp only [Bool.false_eq_true, if_false]
  rw [deeds_bind, hdeeds]
  rcases hr : ((Module.load loader path).run env w).1 with f | m
  · obtain ⟨s, rfl⟩ : ∃ s, last = some (s, f) := by
      rw [hr] at hanswer
      rcases last with _ | ⟨s, g⟩
      · cases hanswer
      · cases hanswer
        exact ⟨s, rfl⟩
    refine ⟨d, _, _, hcourse, ⟨?_, released, rfl⟩, List.append_nil _⟩
    rw [run_bind, hr]
    rfl
  · obtain rfl : last = none := by
      rw [hr] at hanswer
      rcases last with _ | ⟨s, g⟩
      · rfl
      · cases hanswer
    exact ⟨d, none, _, hcourse, ⟨m, _, by rw [run_bind, hr]; rfl, rfl⟩,
      congrArg (_ :: _ :: ·) (List.append_assoc d [_] [_])⟩

/-- What a load asks takes its course, and what it answers follows from that. -/
lemma course_load (env : Environment σ) (loader : Loader) (hpath : path ≠ "") (w : World σ) :
    ∃ last, Course loader w.process.attempts path (Stage.undoing w.process.attempts) Stage.all
        ((Host.load loader path).asked env w) last ∧
      fault? ((Host.load loader path).run env w).1 = last.map Prod.snd := by
  obtain ⟨d, last, rest, hcourse, hsettled, hdeeds⟩ := deeds_load env loader hpath w
  have hrest : rest.filter Deed.isAsked = [] ∧
      fault? ((Host.load loader path).run env w).1 = last.map Prod.snd := by
    rcases last with _ | ⟨s, f⟩
    · obtain ⟨m, handle, hanswer, rfl⟩ := hsettled
      exact ⟨rfl, fault?_eq_none.mpr ⟨handle, hanswer⟩⟩
    · obtain ⟨hanswer, released, rfl⟩ := hsettled
      exact ⟨rfl, fault?_eq_some.mpr hanswer⟩
  have hasked : (Host.load loader path).asked env w = d := by
    rw [asked, hdeeds]
    show (d ++ rest).filter Deed.isAsked = d
    rw [List.filter_append, List.filter_eq_self.mpr hcourse.asked, hrest.1, List.append_nil]
  exact ⟨last, hasked ▸ hcourse, hrest.2⟩

lemma takenBack {d rest : List Deed} {s : Stage} {f : Fault}
    (hcourse : Course loader w.process.attempts path (Stage.undoing w.process.attempts) Stage.all d
      (some (s, f)))
    (hsettled : Settled env w (Host.load loader path) (some (s, f)) rest)
    (hdeeds : (Host.load loader path).deeds env w =
      .accessed .acquireLoading (Process.Access.apply w.process .acquireLoading).1 ::
        .accessed .newModule w.process.attempts :: (d ++ rest)) :
    TakenBack env w (Host.load loader path) s f := by
  obtain ⟨hanswer, released, rfl⟩ := hsettled
  obtain ⟨before, after, -, hd⟩ := hcourse.requests_refused
  have hrequests : (Host.load loader path).requests env w =
      (before ++ [s]).map (Stage.request loader w.process.attempts path) ++
        s.undoing w.process.attempts := by
    rw [requests_eq, hdeeds, ← hd]
    show (d ++ [Deed.accessed _ _]).filterMap Deed.request? = _
    rw [List.filterMap_append]
    exact List.append_nil _
  have hstages : ∀ r ∈ (before ++ [s]).map (Stage.request loader w.process.attempts path),
      r ≠ .call w.process.attempts (.finalize false) ∧ r ≠ .closeLibrary w.process.attempts := by
    intro r hr
    obtain ⟨t, -, rfl⟩ := List.mem_map.mp hr
    cases t <;> exact ⟨by simp, by simp⟩
  refine ⟨hanswer, ?_, ?_, ?_, ?_⟩
  · rw [hrequests, List.count_append, List.count_eq_zero.mpr fun h => (hstages _ h).1 rfl]
    cases s <;> simp [Stage.undoing, Stage.finalizing]
  · rw [hrequests, List.count_append, List.count_eq_zero.mpr fun h => (hstages _ h).2 rfl]
    cases s <;> simp [Stage.undoing, Stage.finalizing]
  · intro hs
    rw [hrequests]
    cases s with
    | opening => exact absurd rfl hs
    | _ => simp [Stage.undoing, Stage.finalizing]
  · rw [run_process, hdeeds, List.foldl_cons, List.foldl_cons, List.foldl_append,
      Deed.foldl_leave_of_asked hcourse.asked]
    rfl

end Host

/-! ### A library that is in use -/

namespace Simulated

open Cryptoki.Module

/-- The library behaves as before, is initialized as often, has the same mutex, has neither made
nor destroyed one since, and has the same sessions. -/
structure State.Untouched (s t : State) : Prop where
  behaviour : t.behaviour = s.behaviour
  instances : t.instances = s.instances
  mutex : t.mutex = s.mutex
  created : t.calls.mutexesCreated = s.calls.mutexesCreated
  destroyed : t.calls.mutexesDestroyed = s.calls.mutexesDestroyed
  sessions : t.sessions = s.sessions
  nextSession : t.nextSession = s.nextSession

lemma State.Untouched.refl (s : State) : s.Untouched s := ⟨rfl, rfl, rfl, rfl, rfl, rfl, rfl⟩

/-- What a load may ask of a library that it cannot initialize. -/
def Beginning : Request → Prop
  | .openLibrary .. | .lookUp .. | .closeLibrary _ => True
  | .call _ (.getFunctionList _) | .call _ (.init _) => True
  | _ => False

variable {s : State} {t u : Timeline}

/-- A library in use that cannot be initialized again says so. -/
lemma init_in_use (hrunning : s.running = true) (honce : s.behaviour.reinitializable = false)
    (ht : s.Untouched t.library) (id : ModuleId) (args : Option InitArgs) :
    (answer (.call id (.init args)) t).1 = Code.alreadyInitialized ∧
      s.Untouched (answer (.call id (.init args)) t).2.library := by
  have hinstances : t.library.instances > 0 := by
    rw [ht.instances]
    simpa [State.running] using hrunning
  have hbehaviour : t.library.behaviour.reinitializable = false := by rw [ht.behaviour, honce]
  have hinit : init args t.library = (.alreadyInitialized,
      { t.library with calls.init := t.library.calls.init + 1 }) := by
    simp [init, State.running, hinstances, hbehaviour]
  simp only [answer, serve, hinit, true_and]
  exact ⟨ht.behaviour, ht.instances, ht.mutex, ht.created, ht.destroyed, ht.sessions,
    ht.nextSession⟩

lemma untouched_beginning (hrunning : s.running = true)
    (honce : s.behaviour.reinitializable = false) (r : Request) (t : Timeline) (hr : Beginning r)
    (ht : s.Untouched t.library) : s.Untouched (answer r t).2.library := by
  obtain ⟨hbehaviour, hinstances, hmutex, hcreated, hdestroyed, hsessions, hnext⟩ := ht
  cases r with
  | openLibrary loader id path =>
    simp only [answer, openLibrary]
    split_ifs
    · exact ⟨hbehaviour, hinstances, hmutex, hcreated, hdestroyed, hsessions, hnext⟩
    · exact ⟨hbehaviour, hinstances, hmutex, hcreated, hdestroyed, hsessions, hnext⟩
  | call id c =>
    cases c with
    | init args => exact (init_in_use hrunning honce
        ⟨hbehaviour, hinstances, hmutex, hcreated, hdestroyed, hsessions, hnext⟩ id args).2
    | getFunctionList place =>
      exact ⟨hbehaviour, hinstances, hmutex, hcreated, hdestroyed, hsessions, hnext⟩
    | _ => exact absurd hr (by simp [Beginning])
  | sleep => exact absurd hr (by simp [Beginning])
  | _ => exact ⟨hbehaviour, hinstances, hmutex, hcreated, hdestroyed, hsessions, hnext⟩

/-- The stages of a load do not get beyond the initialization. -/
lemma untouched_course (hrunning : s.running = true)
    (honce : s.behaviour.reinitializable = false) {loader : Loader} {id : ModuleId} {path : String}
    {d : List Deed} {last : Option (Stage × Fault)} (before : List Stage)
    (h : Course loader id path (Stage.undoing id) (before ++ [.starting, .telling]) d last)
    (hbefore : .telling ∉ before) (hd : Program.Answered environment t d u)
    (ht : s.Untouched t.library) : last.isSome ∧ s.Untouched u.library := by
  generalize hstages : before ++ [.starting, .telling] = stages at h
  induction h generalizing before t with
  | through => simp at hstages
  | passed stage x hpass hrest ih =>
    obtain ⟨hx, hd⟩ := hd
    cases before with
    | nil =>
      obtain ⟨rfl, -⟩ := List.cons.inj hstages
      have hcode : x = Code.alreadyInitialized :=
        hx.trans (init_in_use hrunning honce ht id (some .standard)).1
      rw [hcode] at hpass
      cases hpass
    | cons b before =>
      obtain ⟨rfl, hlater⟩ := List.cons.inj hstages
      have hb : b ≠ .telling := fun hb => hbefore (hb ▸ List.mem_cons_self)
      refine ih before (fun h => hbefore (List.mem_cons_of_mem _ h)) hd ?_ hlater
      refine untouched_beginning hrunning honce _ t ?_ ht
      cases b with
      | telling => exact absurd rfl hb
      | _ => trivial
  | @refused stage stages x f undone hrefused hundone =>
    refine ⟨rfl, ?_⟩
    have hstage : stage ≠ .telling := by
      cases before with
      | nil =>
        obtain ⟨rfl, -⟩ := List.cons.inj hstages
        decide
      | cons b before =>
        obtain ⟨rfl, -⟩ := List.cons.inj hstages
        exact fun hb => hbefore (hb ▸ List.mem_cons_self)
    have hasked : ∀ r, some r ∈ undone.map Deed.request? → Beginning r := by
      intro r hr
      rw [hundone] at hr
      cases stage <;> simp_all [Stage.undoing, Stage.finalizing, Beginning]
    have hwithin : ∀ y ∈ undone, y.Within (fun _ => True) Beginning := by
      intro y hy
      cases y with
      | asked r x => exact hasked r (List.mem_map_of_mem (f := Deed.request?) hy)
      | accessed a x => trivial
    refine Program.Answered.keeps (P := fun t => s.Untouched t.library)
      (untouched_beginning hrunning honce) hwithin hd.2 ?_
    refine untouched_beginning hrunning honce _ t ?_ ht
    cases stage with
    | telling => exact absurd rfl hstage
    | _ => trivial

end Simulated

/-! ### All loads -/

namespace Host

open Cryptoki.Module

/-- **A load that fails is taken back.** Whatever the loader and the library answer, a load goes
through its stages in their order up to the first that refuses it, answers the fault of that stage
and undoes the ones before it; if none refuses it a handle is answered. A library that other modules
have initialized, and that cannot be initialized again, refuses every load and stays as it is. -/
theorem load_taken_back {σ : Type} (env : Environment σ) (loader : Loader) (path : String)
    (hpath : path ≠ "") (w : World σ) :
    (∃ d last, Course loader w.process.attempts path (Stage.undoing w.process.attempts) Stage.all d
        last ∧ ((Host.load loader path).deeds env w).filter Deed.isAsked = d ∧
      match last with
      | none => ∃ handle, ((Host.load loader path).run env w).1 = .ok handle
      | some (s, f) => TakenBack env w (Host.load loader path) s f) ∧
    ∀ v : World Simulated.Timeline, v.outside.library.running = true →
      v.outside.library.behaviour.reinitializable = false →
      ∃ s f, TakenBack Simulated.environment v (Host.load loader path) s f ∧
        v.outside.library.Untouched
          ((Host.load loader path).run Simulated.environment v).2.outside.library := by
  refine ⟨?_, fun v hrunning honce => ?_⟩
  · obtain ⟨d, last, rest, hcourse, hsettled, hdeeds⟩ := deeds_load env loader hpath w
    refine ⟨d, last, hcourse, ?_, ?_⟩
    · have hrest : rest.filter Deed.isAsked = [] := by
        rcases last with _ | ⟨s, f⟩
        · obtain ⟨m, handle, -, rfl⟩ := hsettled
          rfl
        · obtain ⟨-, released, rfl⟩ := hsettled
          rfl
      rw [hdeeds]
      show (d ++ rest).filter Deed.isAsked = d
      rw [List.filter_append, hrest, List.append_nil]
      exact List.filter_eq_self.mpr hcourse.asked
    · rcases last with _ | ⟨s, f⟩
      · obtain ⟨m, handle, hanswer, -⟩ := hsettled
        exact ⟨handle, hanswer⟩
      · exact takenBack hcourse hsettled hdeeds
  · obtain ⟨d, last, rest, hcourse, hsettled, hdeeds⟩ :=
      deeds_load Simulated.environment loader hpath v
    have hanswered := answered_deeds Simulated.environment (Host.load loader path) v
    rw [hdeeds] at hanswered
    obtain ⟨t, hd, hrest⟩ := answered_append.mp hanswered
    obtain ⟨hlast, huntouched⟩ := Simulated.untouched_course hrunning honce
      [.opening, .finding, .listing] hcourse (by decide) hd
      (Simulated.State.Untouched.refl _)
    obtain ⟨⟨s, f⟩, rfl⟩ := Option.isSome_iff_exists.mp hlast
    refine ⟨s, f, takenBack hcourse hsettled hdeeds, ?_⟩
    obtain ⟨-, released, rfl⟩ := hsettled
    have ht : ((Host.load loader path).run Simulated.environment v).2.outside = t := hrest
    rw [ht]
    exact huntouched

/-- A library that starts but does not tell what it is. -/
def silent : World Simulated.Timeline :=
  .initial (.start { Simulated.Behaviour.standard with infoCode := ⟨0x30⟩ })

/-- The same library while a module uses it: it had told what it is before. -/
def inUse : World Simulated.Timeline :=
  ((Host.load .supplied "libfirst.so").run Simulated.environment
    (.initial (.start .standard))).2

/-- A library that was initialized for the load is finalized, and one that is in use is not. -/
theorem load_taken_back_of_silent_and_in_use :
    "libmock.so" ≠ "" ∧
      TakenBack Simulated.environment silent (Host.load .supplied "libmock.so") .telling
        (.pkcs11 ⟨0x30⟩ "C_GetInfo in PKCS#11 module libmock.so failed") ∧
      ∃ s, s ≠ .telling ∧
        TakenBack Simulated.environment inUse (Host.load .supplied "libmock.so") s
          (.pkcs11 .alreadyInitialized "C_Initialize in PKCS#11 module libmock.so failed") ∧
        inUse.outside.library.Untouched ((Host.load .supplied "libmock.so").run
          Simulated.environment inUse).2.outside.library := by
  have hpath : "libmock.so" ≠ "" := by decide
  obtain ⟨hsilent, hinUse⟩ :=
    load_taken_back Simulated.environment .supplied "libmock.so" hpath silent
  refine ⟨hpath, ?_, ?_⟩
  · obtain ⟨d, last, -, -, hlast⟩ := hsilent
    rcases last with _ | ⟨s, f⟩
    · obtain ⟨handle, hanswer⟩ := hlast
      cases hanswer
    have hfault := hlast.answer
    cases hfault
    have hstage : 1 = if s = .telling then 1 else 0 := hlast.finalized
    split_ifs at hstage with hs
    exact hs ▸ hlast
  · obtain ⟨s, f, htaken, huntouched⟩ := hinUse inUse rfl rfl
    have hfault := htaken.answer
    cases hfault
    have hstage : 0 = if s = .telling then 1 else 0 := htaken.finalized
    split_ifs at hstage with hs
    exact ⟨s, hs, htaken, huntouched⟩

end Host

end Cryptoki
