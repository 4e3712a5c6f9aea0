import Cryptoki.Module.Load
import Cryptoki.Proofs.Program.Deeds

/-!
What a load asks of a library, and how it takes back what it did.

A load has five stages, each of which is one request. It goes from stage to stage until an answer
refuses it, and then makes the requests that undo the stages behind it. Which answers refuse it,
with which fault, and what is undone is said stage by stage.
-/

namespace Cryptoki

open Program

namespace Module

/-- The stages of a load, which open the library, find its entry point, fetch the function list,
initialize the library and ask what it is. -/
inductive Stage where
  | opening | finding | listing | starting | telling
  deriving DecidableEq, Repr

namespace Stage

def all : List Stage := [.opening, .finding, .listing, .starting, .telling]

variable (loader : Loader) (id : ModuleId) (path : String)

@[reducible] def request : Stage → Request
  | .opening => .openLibrary loader id path
  | .finding => .lookUp id "C_GetFunctionList"
  | .listing => .call id (.getFunctionList true)
  | .starting => .call id (.init (some .standard))
  | .telling => .call id (.getInfo true)

/-- Why a stage is the last: the fault that its answer amounts to, if any. A function list is
refused as well if there is none or if it lacks one of the mandatory functions. -/
def refusal : (s : Stage) → (s.request loader id path).Answer → Option Fault
  | .opening, .ok _ => none
  | .opening, .error reason => some (.moduleLoad path reason)
  | .finding, .ok _ => none
  | .finding, .error _ => some (.missingEntryPoint path "C_GetFunctionList")
  | .listing, ⟨code, written⟩ =>
    if code ≠ .ok then
      some (.pkcs11 code ("C_GetFunctionList in PKCS#11 module " ++ path ++ " failed"))
    else match written with
      | none => some (.moduleLoad path "C_GetFunctionList returned no function list")
      | some list => list.missing?.map fun f =>
        .moduleLoad path ("function " ++ f.name ++ " is not provided")
  | .starting, code =>
    if code ≠ .ok then
      some (.pkcs11 code ("C_Initialize in PKCS#11 module " ++ path ++ " failed"))
    else none
  | .telling, told =>
    if told.code ≠ .ok then
      some (.pkcs11 told.code ("C_GetInfo in PKCS#11 module " ++ path ++ " failed"))
    else none

/-- What is finalized again when this stage is the last. -/
def finalizing : Stage → List Request
  | .telling => [.call id (.finalize false)]
  | _ => []

/-- What is undone when this stage is the last: a library that was initialized is finalized, and
then a library that was opened is closed. -/
def undoing : Stage → List Request
  | .opening => []
  | s => s.finalizing id ++ [.closeLibrary id]

end Stage

/-- How the stages of a load went: each request was made and answered in turn, until an answer
refused the load and what is to be undone was undone. -/
inductive Course (loader : Loader) (id : ModuleId) (path : String) (undo : Stage → List Request) :
    List Stage → List Deed → Option (Stage × Fault) → Prop
  | through : Course loader id path undo [] [] none
  | passed (s : Stage) {stages : List Stage} (x : (s.request loader id path).Answer)
      {d : List Deed} {last : Option (Stage × Fault)}
      (hpass : s.refusal loader id path x = none)
      (hrest : Course loader id path undo stages d last) :
      Course loader id path undo (s :: stages) (.asked (s.request loader id path) x :: d) last
  | refused (s : Stage) {stages : List Stage} (x : (s.request loader id path).Answer) (f : Fault)
      (undone : List Deed) (hrefused : s.refusal loader id path x = some f)
      (hundone : undone.map Deed.request? = (undo s).map some) :
      Course loader id path undo (s :: stages) (.asked (s.request loader id path) x :: undone)
        (some (s, f))

namespace Course

variable {loader : Loader} {id : ModuleId} {path : String} {stages : List Stage} {d : List Deed}
  {last : Option (Stage × Fault)}

/-- What follows the stages of a load: only one that none of them refused adopts the module. -/
def adopting (id : ModuleId) : Option (Stage × Fault) → List Deed
  | none => [.accessed (.adopt id) ()]
  | some _ => []

/-- The close of a library by a load that was refused. -/
def closing (id : ModuleId) : Option (Stage × Fault) → List Deed
  | none => []
  | some _ => [.asked (.closeLibrary id) ()]

lemma close (h : Course loader id path (Stage.finalizing id) stages d last)
    (hopen : .opening ∉ stages) :
    Course loader id path (Stage.undoing id) stages (d ++ closing id last) last := by
  induction h with
  | through => exact .through
  | passed s x hpass hrest ih =>
    exact .passed s x hpass (ih fun hmem => hopen (List.mem_cons_of_mem _ hmem))
  | @refused s stages x f undone hrefused hundone =>
    refine .refused s x f _ hrefused ?_
    have hs : s ≠ .opening := fun hs => hopen (hs ▸ List.mem_cons_self)
    have hundo : s.undoing id = s.finalizing id ++ [.closeLibrary id] := by
      cases s with
      | opening => exact absurd rfl hs
      | _ => rfl
    show (undone ++ closing id (some (s, f))).map Deed.request? = _
    rw [hundo, List.map_append, List.map_append, hundone]
    rfl

/-- The requests of a load that was refused: those of the stages up to the last, and what is undone
after it. -/
lemma requests_refused {undo : Stage → List Request} {s : Stage} {f : Fault}
    (h : Course loader id path undo stages d (some (s, f))) :
    ∃ before after, stages = before ++ s :: after ∧
      d.filterMap Deed.request? =
        (before ++ [s]).map (Stage.request loader id path) ++ undo s := by
  generalize hlast : some (s, f) = last at h
  induction h with
  | through => cases hlast
  | passed t x hpass hrest ih =>
    obtain ⟨before, after, hstages, hrequests⟩ := ih hlast
    exact ⟨t :: before, after, congrArg (t :: ·) hstages, congrArg (_ :: ·) hrequests⟩
  | @refused t stages x g undone hrefused hundone =>
    cases hlast
    exact ⟨[], stages, rfl, congrArg (_ :: ·) (Deed.requests_of_map hundone)⟩

lemma asked {undo : Stage → List Request} (h : Course loader id path undo stages d last) :
    ∀ x ∈ d, x.isAsked := by
  induction h with
  | through => exact fun x hx => absurd hx List.not_mem_nil
  | passed t x hpass hrest ih => exact List.forall_mem_cons.mpr ⟨rfl, ih⟩
  | @refused t stages x g undone hrefused hundone =>
    refine List.forall_mem_cons.mpr ⟨rfl, fun y hy => ?_⟩
    have hmem : y.request? ∈ (undo t).map some := hundone ▸ List.mem_map_of_mem hy
    obtain ⟨r, -, hr⟩ := List.mem_map.mp hmem
    rw [Deed.isAsked, ← hr]
    rfl

end Course

/-- The fault that was answered, if any. -/
def fault? {α : Type} : Except Fault α → Option Fault
  | .ok _ => none
  | .error f => some f

lemma fault?_eq_none {α : Type} {r : Except Fault α} : fault? r = none ↔ ∃ a, r = .ok a := by
  cases r <;> simp [fault?]

lemma fault?_eq_some {α : Type} {r : Except Fault α} {f : Fault} :
    fault? r = some f ↔ r = .error f := by
  cases r <;> simp [fault?]

/-- What a part of a load answers and does: its stages take their course, the fault of the last
one is answered, and if there is none the module is adopted. -/
def Proceeds (loader : Loader) (id : ModuleId) (path : String) (undo : Stage → List Request)
    (stages : List Stage) (r : Except Fault Module) (deeds : List Deed) : Prop :=
  ∃ d last, Course loader id path undo stages d last ∧ deeds = d ++ Course.adopting id last ∧
    fault? r = last.map Prod.snd

variable {σ : Type} (env : Environment σ) (loader : Loader) (id : ModuleId) (path : String)

lemma proceeds_begin (fs : FunctionList) (w : World σ) :
    Proceeds loader id path (Stage.finalizing id) [.starting, .telling]
      ((begin id path fs).run env w).1 ((begin id path fs).deeds env w) := by
  rw [begin, run_bind, deeds_bind, run_call, deeds_call]
  generalize env.answer (.call id (.init (some .standard))) w.outside = told
  obtain ⟨started, outside⟩ : Code × σ := told
  dsimp only
  split_ifs with hstart
  · exact ⟨_, _, .refused .starting started _ [] (if_pos hstart) rfl, rfl, rfl⟩
  have hpass : Stage.starting.refusal loader id path started = none := if_neg hstart
  rw [run_bind, deeds_bind, run_call, deeds_call]
  generalize env.answer (.call id (.getInfo true)) _ = told
  obtain ⟨told, outside⟩ : Reply Record.Library × σ := told
  dsimp only
  split_ifs with htold
  · exact ⟨_, _, .passed .starting started hpass (.refused .telling told _
      [.asked (.call id (.finalize false)) _] (if_pos htold) rfl), rfl, rfl⟩
  · exact ⟨_, _, .passed .starting started hpass
      (.passed .telling told (if_neg htold) .through), rfl, rfl⟩

lemma proceeds_ofLibrary (w : World σ) :
    Proceeds loader id path (Stage.finalizing id) [.finding, .listing, .starting, .telling]
      ((ofLibrary id path).run env w).1 ((ofLibrary id path).deeds env w) := by
  rw [ofLibrary, run_bind, deeds_bind, run_ask, deeds_ask]
  generalize env.answer (.lookUp id Function.entryPoint.name) w.outside = told
  obtain ⟨_ | _, outside⟩ : Except String Unit × σ := told
  · exact ⟨_, _, .refused .finding (.error _) _ [] rfl rfl, rfl, rfl⟩
  dsimp only
  rw [run_bind, deeds_bind, run_call, deeds_call]
  generalize env.answer (.call id (.getFunctionList true)) _ = told
  obtain ⟨⟨code, written⟩, outside⟩ : Reply FunctionList × σ := told
  dsimp only
  split_ifs with hcode
  · exact ⟨_, _, .passed .finding (.ok ()) rfl (.refused .listing ⟨code, written⟩ _ []
      (if_pos hcode) rfl), rfl, rfl⟩
  rcases written with _ | list
  · exact ⟨_, _, .passed .finding (.ok ()) rfl (.refused .listing ⟨code, none⟩ _ []
      (if_neg hcode) rfl), rfl, rfl⟩
  have hlist : Stage.listing.refusal loader id path ⟨code, some list⟩ =
      list.missing?.map fun f => .moduleLoad path ("function " ++ f.name ++ " is not provided") :=
    if_neg hcode
  rcases hmissing : list.missing? with _ | f
  · rw [hmissing] at hlist
    simp only [checkFunctions, hmissing]
    obtain ⟨d, last, hcourse, hdeeds, hanswer⟩ := proceeds_begin env loader id path list
      { w with outside }
    exact ⟨_, last, .passed .finding (.ok ()) rfl (.passed .listing _ hlist hcourse),
      congrArg (_ :: _ :: ·) hdeeds, hanswer⟩
  · rw [hmissing] at hlist
    simp only [checkFunctions, hmissing]
    exact ⟨_, _, .passed .finding (.ok ()) rfl (.refused .listing _ _ [] hlist rfl),
      rfl, rfl⟩

/-! ### The whole load -/

lemma deeds_acquire (w : World σ) : Loading.acquire.deeds env w =
    [.accessed .acquireLoading (Process.Access.apply w.process .acquireLoading).1] := by
  rw [Loading.acquire, deeds_bind, run_touch, deeds_touch]
  split_ifs
  · rfl
  · rfl

lemma deeds_giveBack (w : World σ) : Loading.release.deeds env w =
    [.accessed .releaseLoading (Process.Access.apply w.process .releaseLoading).1] := by
  rw [Loading.release, deeds_bind, run_touch, deeds_touch]
  split_ifs
  · rfl
  · rfl

/-- What a load does last: it adopts the module, or gives the loading subsystem back. -/
def settling (id : ModuleId) (released : Bool) : Option (Stage × Fault) → List Deed
  | none => [.accessed (.adopt id) ()]
  | some _ => [.accessed .releaseLoading released]

lemma deeds_load (w : World σ) : ∃ d last released,
    Course loader w.process.attempts path (Stage.undoing w.process.attempts) Stage.all d last ∧
      fault? ((load loader path).run env w).1 = last.map Prod.snd ∧
      (load loader path).deeds env w =
        .accessed .acquireLoading (Process.Access.apply w.process .acquireLoading).1 ::
          .accessed .newModule w.process.attempts ::
            (d ++ settling w.process.attempts released last) := by
  have hid : (Process.Access.apply (Loading.acquire.run env w).2.process .newModule).1 =
      w.process.attempts := by
    rw [run_process, deeds_acquire]
    rfl
  rw [← hid, load, run_bind, deeds_bind, deeds_acquire]
  generalize (Loading.acquire.run env w).2 = v
  rw [run_bind, deeds_bind, run_touch, deeds_touch]
  generalize Process.Access.apply v.process .newModule = numbered
  obtain ⟨id, process⟩ : ModuleId × Process := numbered
  rw [run_bind, deeds_bind, run_ask, deeds_ask]
  dsimp only
  generalize env.answer (.openLibrary loader id path) v.outside = told
  obtain ⟨reason | _, outside⟩ : Except String Unit × σ := told
  · exact ⟨_, _, _, .refused .opening (.error reason) _ [] rfl rfl,
      by rw [run_bind, run_bind, run_pure]; rfl, by
      rw [deeds_bind, deeds_say, deeds_bind, deeds_giveBack, deeds_pure]
      rfl⟩
  dsimp only
  obtain ⟨d, last, hcourse, hdeeds, hanswer⟩ :=
    proceeds_ofLibrary env loader id path { process, outside, journal := v.journal }
  have hclosed := Course.passed .opening (.ok ()) rfl (hcourse.close (by decide))
  rw [run_bind, deeds_bind, hdeeds]
  generalize (ofLibrary id path).run env _ = r at hanswer ⊢
  obtain ⟨f | m, u⟩ := r
  · obtain ⟨s, rfl⟩ : ∃ s, last = some (s, f) := by
      rcases last with _ | ⟨s, g⟩
      · cases hanswer
      · cases hanswer
        exact ⟨s, rfl⟩
    exact ⟨_, _, _, hclosed, by rw [run_bind, run_bind, run_pure]; rfl, by
      rw [Course.adopting, List.append_nil, deeds_bind, deeds_ask, deeds_bind, deeds_giveBack,
        deeds_pure]
      exact congrArg (_ :: _ :: _ :: ·) (List.append_assoc d [_] [_]).symm⟩
  · obtain rfl : last = none := by
      rcases last with _ | ⟨s, g⟩
      · rfl
      · cases hanswer
    refine ⟨_, _, false, hclosed, rfl, ?_⟩
    dsimp only
    rw [deeds_pure]
    simp [Course.adopting, Course.closing, settling]

/-! ### What becomes of the answers -/

variable {m : Module}

/-- Among the deeds is the one in which the library told what the module says of itself. -/
def ToldIn (m : Module) (d : List Deed) : Prop :=
  ∃ told : Reply Record.Library, .asked (.call m.id (.getInfo true)) told ∈ d ∧
    told.code = .ok ∧ m.info = .ofRecord (told.written.getD .blank)

lemma ToldIn.mono {d e : List Deed} (hd : m.ToldIn d) (hsub : ∀ x ∈ d, x ∈ e) : m.ToldIn e := by
  obtain ⟨told, hmem, hcode, hinfo⟩ := hd
  exact ⟨told, hsub _ hmem, hcode, hinfo⟩

/-- Fetching the function list of the module. -/
abbrev fetching (m : Module) : Deed :=
  .asked (.call m.id (.getFunctionList true)) ⟨.ok, some m.functions⟩

/-- A module that was made in the course of the deeds: it bears the path, has the functions that its
library listed, and says of itself what its library told. -/
structure MadeIn (m : Module) (id : ModuleId) (path : String) (d : List Deed) : Prop where
  number : m.id = id
  name : m.name = path
  functions : m.fetching ∈ d
  told : m.ToldIn d

lemma MadeIn.mono {j : ModuleId} {name : String} {d e : List Deed} (hd : m.MadeIn j name d)
    (hsub : ∀ x ∈ d, x ∈ e) : m.MadeIn j name e :=
  ⟨hd.number, hd.name, hsub _ hd.functions, hd.told.mono hsub⟩

lemma made_begin (fs : FunctionList) (w : World σ)
    (hm : ((begin id path fs).run env w).1 = .ok m) :
    m.id = id ∧ m.name = path ∧ m.functions = fs ∧ m.ToldIn ((begin id path fs).deeds env w) := by
  rw [begin, run_bind, run_call] at hm
  rw [begin, deeds_bind, run_call]
  split_ifs at hm ⊢ with hstart
  · cases hm
  rw [run_bind, run_call] at hm
  rw [deeds_bind, run_call, deeds_call, deeds_call]
  split_ifs at hm ⊢ with htold
  · cases hm
  · cases hm
    exact ⟨rfl, rfl, rfl, _, List.mem_append_right _ List.mem_cons_self, not_not.mp htold, rfl⟩

lemma madeIn_ofLibrary (w : World σ) (hm : ((ofLibrary id path).run env w).1 = .ok m) :
    m.MadeIn id path ((ofLibrary id path).deeds env w) := by
  rw [ofLibrary, run_bind, run_ask] at hm
  rw [ofLibrary, deeds_bind, run_ask]
  generalize env.answer (.lookUp id Function.entryPoint.name) w.outside = found at hm ⊢
  obtain ⟨reason | _, outside⟩ : Except String Unit × σ := found
  · cases hm
  dsimp only at hm ⊢
  rw [run_bind, run_call] at hm
  rw [deeds_bind, run_call, deeds_call]
  generalize env.answer (.call id (.getFunctionList true)) _ = listed at hm ⊢
  obtain ⟨⟨code, written⟩, outside⟩ : Reply FunctionList × σ := listed
  dsimp only at hm ⊢
  split_ifs at hm ⊢ with hcode
  · cases hm
  rcases written with _ | list
  · cases hm
  rcases hmissing : list.missing? with _ | f
  · simp only [checkFunctions, hmissing] at hm ⊢
    obtain ⟨rfl, rfl, rfl, htold⟩ := made_begin env id path list _ hm
    rw [not_not.mp hcode]
    exact ⟨rfl, rfl, List.mem_append_right _ (List.mem_append_left _ List.mem_cons_self),
      htold.mono fun x hx => List.mem_append_right _ (List.mem_append_right _ hx)⟩
  · simp only [checkFunctions, hmissing] at hm
    cases hm

lemma madeIn_load (w : World σ) (hm : ((load loader path).run env w).1 = .ok m) :
    m.MadeIn m.id path ((load loader path).deeds env w) := by
  rw [load, run_bind, run_bind, run_touch, run_bind, run_ask] at hm
  rw [load, deeds_bind, deeds_bind, run_touch, deeds_bind, run_ask]
  generalize env.answer (.openLibrary loader _ path) _ = opened at hm ⊢
  obtain ⟨reason | _, outside⟩ : Except String Unit × σ := opened
  · rw [run_bind, run_bind, run_pure] at hm
    cases hm
  dsimp only at hm ⊢
  rw [run_bind] at hm
  rw [deeds_bind]
  generalize hr : (ofLibrary _ path).run env _ = r at hm ⊢
  obtain ⟨f | n, u⟩ := r
  · rw [run_bind, run_bind, run_pure] at hm
    cases hm
  · cases hm
    have hmade := madeIn_ofLibrary env _ path _ (congrArg Prod.fst hr)
    rw [hmade.number]
    refine hmade.mono fun x hx => ?_
    exact List.mem_append_right _ (List.mem_append_right _ (List.mem_append_right _
      (List.mem_append_left _ hx)))

end Module

end Cryptoki
