import Cryptoki.Proofs.Host.Operations
import Cryptoki.Proofs.Module.Turns

/-!
Sessions are tracked by those who opened them.

Most things that hold between two operations do not hold in the midst of them, but this does,
whatever an operation is answered: a session is tracked only by an operation that the library told
its number before.
-/

namespace Cryptoki

open Process Program

variable {α β : Type}

/-! ### Programs that track what they open -/

/-- The number that a session is given when it is opened. -/
def Deed.issues? : Deed → Option SessionId
  | .asked (.call _ (.openSession _ _ _ _ _)) reply =>
    if Reply.code reply = .ok then some ((Reply.written reply).getD 0) else none
  | _ => none

/-- The session that an access has a module track. -/
def Process.Access.tracks? : Access → Option SessionId
  | .sessions _ (.track session _ _) => some session
  | _ => none

namespace Program

/-- Whatever it is answered, the program has only sessions of this set tracked, and those that it
opens itself. -/
def Tracks : Set SessionId → Program α → Prop
  | _, .done _ => True
  | S, .request r next => ∀ x, (next x).Tracks (S ∪ {h | (Deed.asked r x).issues? = some h})
  | S, .access a next => (∀ h, a.tracks? = some h → h ∈ S) ∧ ∀ x, (next x).Tracks S
  | S, .log _ next => next.Tracks S

variable {S T : Set SessionId} {p : Program α} {f : α → Program β}

lemma Tracks.mono (hp : p.Tracks S) (h : S ⊆ T) : p.Tracks T := by
  induction p generalizing S T with
  | done a => trivial
  | request r next ih => exact fun x => ih x (hp x) (Set.union_subset_union_left _ h)
  | access a next ih => exact ⟨fun k hk => h (hp.1 k hk), fun x => ih x (hp.2 x) h⟩
  | log l next ih => exact ih hp h

lemma tracks_bind (hp : p.Tracks S) (hf : ∀ a, (f a).Tracks ∅) : (p >>= f).Tracks S := by
  show (p.bind f).Tracks S
  induction p generalizing S with
  | done a => exact (hf a).mono (Set.empty_subset S)
  | request r next ih => exact fun x => ih x (hp x)
  | access a next ih => exact ⟨hp.1, fun x => ih x (hp.2 x)⟩
  | log l next ih => exact ih hp

/-- Accesses that have nothing tracked. -/
abbrev Untracking (p : Program α) : Prop := p.Within (fun a => a.tracks? = none) fun _ => True

lemma Untracking.tracks (hp : p.Untracking) : p.Tracks S := by
  induction p generalizing S with
  | done a => trivial
  | request r next ih => exact fun x => ih x (hp.2 x)
  | access a next ih =>
    refine ⟨fun h hh => ?_, fun x => ih x (hp.2 x)⟩
    rw [hp.1] at hh
    cases hh
  | log l next ih => exact ih hp

/-- A call to a module has at most the session tracked that it has in hand to be tracked. -/
lemma tracks_of_along {d : Demand} {m : ModuleId} {phase : Demand.Phase}
    {ending : α → Demand.Phase → Prop} (hp : d.Along m phase p ending) :
    p.Tracks {h | phase = .toTrack h} := by
  induction p generalizing phase with
  | done a => trivial
  | request r next ih =>
    intro x
    obtain ⟨after, hturn, hnext⟩ := hp x
    refine (ih x hnext).mono fun h hh => .inr ?_
    cases hturn with
    | opens slot readWrite flags application notify place reply hcode =>
      obtain rfl := Demand.Phase.toTrack.inj hh
      exact if_pos hcode
    | logsIn slot session user secret pin length code =>
      have hh : (if code = .ok then Demand.Phase.found else .over) = .toTrack h := hh
      split_ifs at hh
    | _ => cases hh
  | access a next ih =>
    refine ⟨fun h hh => ?_, fun x => ?_⟩
    · obtain ⟨after, hturn, -⟩ := hp (a.apply .initial).1
      generalize (a.apply .initial).1 = x at hturn
      cases hturn with
      | tracks slot readWrite session =>
        obtain rfl := Option.some.inj hh
        rfl
      | _ => cases hh
    · obtain ⟨after, hturn, hnext⟩ := hp x
      refine (ih x hnext).mono fun h hh => ?_
      cases hturn <;> cases hh
  | log l next ih => exact ih hp.2

lemma tracks_of_fresh {d : Demand} {m : ModuleId} {ending : α → Demand.Phase → Prop}
    (hp : d.Along m .fresh p ending) : p.Tracks S :=
  (tracks_of_along hp).mono fun h hh => by cases hh

end Program

/-! ### Operations track what they open -/

namespace Module

variable {S : Set SessionId} {m : Module}

lemma Looks.tracks {p : Program α} (hp : m.Looks p) : p.Tracks S :=
  Untracking.tracks (hp.mono (fun _ ha => ha.elim) fun _ _ => trivial)

lemma untracking_release : m.release.Untracking := by
  refine within_bind (within_touch.mpr rfl) fun last => ?_
  split_ifs
  · refine (ends_tearDown m).mono ?_ fun _ _ => trivial
    rintro a (rfl | rfl | rfl) <;> rfl
  · exact within_pure _

lemma untracking_begin (id : ModuleId) (name : String) (functions : FunctionList) :
    (begin id name functions).Untracking := by
  refine within_bind (within_call.mpr trivial) fun started => ?_
  split_ifs
  · exact within_pure _
  refine within_bind (within_call.mpr trivial) fun told => ?_
  split_ifs
  · exact within_bind (within_call.mpr trivial) fun _ => within_pure _
  · refine within_bind (within_say _ _ _) fun _ => ?_
    exact within_bind (within_touch.mpr rfl) fun _ => within_pure _

lemma untracking_ofLibrary (id : ModuleId) (name : String) : (ofLibrary id name).Untracking := by
  refine within_bind (within_ask.mpr trivial) fun found => ?_
  rcases found with reason | _
  · exact within_bind (within_say _ _ _) fun _ => within_pure _
  refine within_bind (within_call.mpr trivial) fun listed => ?_
  split_ifs
  · exact within_pure _
  rcases checkFunctions name listed.written with f | functions
  · exact within_pure _
  · exact untracking_begin id name functions

end Module

namespace Loading

lemma untracking_acquire : acquire.Untracking := by
  refine within_bind (within_touch.mpr rfl) fun first => ?_
  split_ifs
  · exact within_say _ _ _
  · exact within_pure _

lemma untracking_release : release.Untracking := by
  refine within_bind (within_touch.mpr rfl) fun last => ?_
  split_ifs
  · exact within_say _ _ _
  · exact within_pure _

end Loading

lemma Module.untracking_load (loader : Loader) (path : String) :
    (Module.load loader path).Untracking := by
  refine within_bind Loading.untracking_acquire fun _ => ?_
  refine within_bind (within_touch.mpr rfl) fun id => ?_
  refine within_bind (within_ask.mpr trivial) fun opened => ?_
  rcases opened with reason | _
  · exact within_bind (within_say _ _ _) fun _ =>
      within_bind Loading.untracking_release fun _ => within_pure _
  refine within_bind (untracking_ofLibrary id path) fun made => ?_
  rcases made with f | m
  · exact within_bind (within_ask.mpr trivial) fun _ =>
      within_bind Loading.untracking_release fun _ => within_pure _
  · exact within_pure _

/-- Whatever is done with a module, it tracks what it opens. -/
lemma Module.Method.tracks (o : Module.Method) (m : Module) : (o.program m).Tracks ∅ := by
  cases o with
  | slotList tokenPresent => exact (m.looks_slotList tokenPresent).tracks
  | slotInfo id => exact (m.looks_slotInfo id).tracks
  | tokenInfo id => exact (m.looks_tokenInfo id).tracks
  | findSlot label => exact (m.looks_findSlot label).tracks
  | waitForSlot patience => exact (m.looks_waitForSlot patience).tracks
  | openSession slot readWrite =>
    exact tracks_of_fresh (Demand.along_bind.mp (Demand.obeys_openSession m slot readWrite))
  | closeSession slot session =>
    exact tracks_of_fresh (Demand.along_bind.mp (Demand.obeys_closeSession m slot session))
  | login slot session user secret =>
    exact tracks_of_fresh (Demand.along_bind.mp (Demand.obeys_login m slot session user secret))
  | logout slot session =>
    exact tracks_of_fresh (Demand.along_bind.mp (Demand.obeys_logout m slot session))
  | sessionState slot session =>
    exact Untracking.tracks (within_bind (within_touch.mpr rfl) fun _ => within_pure _)
  | openSessions => exact Untracking.tracks (within_touch.mpr rfl)

namespace Host

variable {h s : Handle}

lemma tracks_withModule {body : Module → Program (Except Fault α)}
    (hbody : ∀ m, (body m).Tracks ∅) : (withModule h body).Tracks ∅ := by
  have hhold : (hold h).Tracks ∅ := Untracking.tracks (within_touch.mpr rfl)
  refine tracks_bind hhold fun found => ?_
  rcases found with f | m
  · trivial
  · exact tracks_bind (hbody m) fun r => tracks_bind m.untracking_release.tracks fun _ => trivial

lemma untracking_slotOf : (slotOf h s).Untracking := by
  refine within_bind (within_touch.mpr rfl) fun found => ?_
  rcases found with f | k
  · exact within_pure _
  · dsimp only
    split_ifs <;> exact within_pure _

lemma tracks_withSlot {body : Module → SlotId → Program (Except Fault α)}
    (hbody : ∀ m id, (body m id).Tracks ∅) : (withSlot h s body).Tracks ∅ := by
  refine tracks_withModule fun m => tracks_bind untracking_slotOf.tracks fun found => ?_
  rcases found with f | id
  · trivial
  · exact hbody m id

lemma tracks_register (id : SlotId) : (register h id).Tracks ∅ :=
  Untracking.tracks (within_touch.mpr rfl)

lemma ModuleOp.tracks (o : ModuleOp) (h : Handle) : (o.program h).Tracks ∅ := by
  cases o with
  | info => exact tracks_withModule fun m => trivial
  | unload =>
    refine Untracking.tracks (within_bind (within_touch.mpr rfl) fun found => ?_)
    rcases found with f | m
    · exact within_pure _
    · refine within_bind (within_touch.mpr rfl) fun slots => ?_
      exact within_bind (within_say _ _ _) fun _ => within_bind m.untracking_release
        fun _ => within_pure _
  | slotList tokenPresent => exact tracks_withModule fun m => (m.looks_slotList tokenPresent).tracks
  | openSlot id =>
    refine tracks_bind (tracks_withModule fun m => (m.looks_slotInfo id).tracks) fun told => ?_
    rcases told with f | info
    · trivial
    · exact tracks_bind (tracks_register id) fun _ => trivial
  | openSlotByLabel label =>
    refine tracks_withModule fun m => tracks_bind (m.looks_findSlot label).tracks fun found => ?_
    rcases found with f | _ | id
    · trivial
    · trivial
    · exact tracks_bind (tracks_register id) fun _ => trivial
  | waitForSlot patience =>
    refine tracks_bind (tracks_withModule fun m => (m.looks_waitForSlot patience).tracks)
      fun event => ?_
    rcases event with f | _ | id
    · trivial
    · trivial
    · exact tracks_bind (tracks_register id) fun _ => trivial
  | openSessions =>
    exact tracks_withModule fun m =>
      tracks_bind (Module.Method.openSessions.tracks m) fun _ => trivial

lemma SlotOp.tracks (o : SlotOp) (h s : Handle) : (o.program h s).Tracks ∅ := by
  cases o with
  | close =>
    refine tracks_bind (tracks_withSlot fun _ _ => trivial) fun found => ?_
    rcases found with f | _
    · trivial
    refine Untracking.tracks (within_bind (within_touch.mpr rfl) fun gone => ?_)
    rcases gone with f | slot
    · exact within_pure _
    · exact within_pure _
  | slotInfo => exact tracks_withSlot fun m id => (m.looks_slotInfo id).tracks
  | tokenInfo => exact tracks_withSlot fun m id => (m.looks_tokenInfo id).tracks
  | openSession readWrite =>
    exact tracks_withSlot fun m id => (Module.Method.openSession id readWrite).tracks m
  | closeSession session =>
    exact tracks_withSlot fun m id =>
      tracks_bind ((Module.Method.closeSession id session).tracks m) fun _ => trivial
  | login session user secret =>
    exact tracks_withSlot fun m id => (Module.Method.login id session user secret).tracks m
  | logout session =>
    exact tracks_withSlot fun m id =>
      tracks_bind ((Module.Method.logout id session).tracks m) fun _ => trivial
  | sessionState session =>
    refine tracks_withSlot fun m id =>
      tracks_bind ((Module.Method.sessionState id session).tracks m) fun state => ?_
    rcases state with _ | state
    · trivial
    · trivial

lemma tracks_load (loader : Loader) (path : String) : (load loader path).Tracks ∅ := by
  unfold load
  split_ifs
  · trivial
  refine tracks_bind (Module.untracking_load loader path).tracks fun made => ?_
  rcases made with f | m
  · trivial
  · exact Untracking.tracks (within_bind (within_touch.mpr rfl) fun handle =>
      within_bind (within_say _ _ _) fun _ => within_pure _)

/-- **Operations track what they open** and nothing else. -/
theorem Operation.tracks (o : Operation) : o.program.Tracks ∅ := by
  cases o with
  | load loader path => exact tracks_load loader path
  | onModule h o => exact o.tracks h
  | onSlot h s o => exact o.tracks h s

end Host

end Cryptoki
