import TauriPlatform.AsyncSystem

/-!
# The moments of a call

What a call answers may be true of a state which it has passed, and no longer of the state
in which it settles.  Every program in flight keeps the states which have passed since it was
started; one which has settled sees no further ones.  The module names nothing of a particular
program.
-/

namespace Async

universe u v

variable {L : Type v} {Call : Type → Type u} {ε α σ : Type}

structure Watched (L : Type v) (Call : Type → Type u) (ε α σ : Type) where
  label : L
  moments : List σ
  program : Program Call ε α

structure Watching (L : Type v) (Call : Type → Type u) (ε α σ : Type) where
  state : σ
  threads : List (Watched L Call ε α σ)

def Watched.pass (later : σ) (thread : Watched L Call ε α σ) : Watched L Call ε α σ :=
  match thread.program with
  | .done _ => thread
  | .call _ _ => { thread with moments := thread.moments ++ [later] }

def Watched.continued (thread : Watched L Call ε α σ) (later : σ) (program : Program Call ε α) :
    Watched L Call ε α σ :=
  { thread with moments := thread.moments ++ [later], program := program }

inductive Watching.Step (environment : Environment Call ε σ) (start : L → Program Call ε α) :
    Watching L Call ε α σ → Watching L Call ε α σ → Prop
  | start (label : L) (state : σ) (threads : List (Watched L Call ε α σ)) :
      Step environment start ⟨state, threads⟩ ⟨state, ⟨label, [state], start label⟩ :: threads⟩
  | advance {β : Type} (request : Call β) (rest : Except ε β → Program Call ε α)
      (thread : Watched L Call ε α σ) (before after : List (Watched L Call ε α σ))
      (state : σ) (answer : Except ε β) (later : σ) :
      thread.program = .call request rest → environment request state answer later →
      Step environment start ⟨state, before ++ thread :: after⟩
        ⟨later, before.map (Watched.pass later) ++
          thread.continued later (rest answer) :: after.map (Watched.pass later)⟩

def Watching.Reaches (environment : Environment Call ε σ) (start : L → Program Call ε α)
    (initial : σ) (system : Watching L Call ε α σ) : Prop :=
  Relation.ReflTransGen (Watching.Step environment start) ⟨initial, []⟩ system

/-! ## What a call knows of its moments -/

def momentsEnvironment (environment : Environment Call ε σ) : Environment Call ε (List σ) :=
  fun _ request moments answer later =>
    ∃ now next, moments.getLast? = some now ∧ environment request now answer next ∧
      later = moments ++ [next]

/-- Whatever passes between its calls, the program settles with an outcome which `post` allows
after the moments since its start. -/
def Program.SettlesWithin (environment : Environment Call ε σ)
    (post : Except ε α → List σ → Prop) : Program Call ε α → List σ → Prop :=
  Program.Safe (momentsEnvironment environment) (fun _ => True)
    (fun earlier later => earlier <+: later) (fun _ => True) post

variable {environment : Environment Call ε σ} {start : L → Program Call ε α}
  {post : L → Except ε α → List σ → Prop}

structure Watched.Sound (environment : Environment Call ε σ)
    (post : L → Except ε α → List σ → Prop) (state : σ) (thread : Watched L Call ε α σ) :
    Prop where
  settles : thread.program.SettlesWithin environment (post thread.label) thread.moments
  last : (∃ outcome, thread.program = .done outcome) ∨ thread.moments.getLast? = some state

variable {thread : Watched L Call ε α σ}

theorem Watched.Sound.pass {state : σ} (hsound : thread.Sound environment post state) (later : σ) :
    (thread.pass later).Sound environment post later := by
  obtain ⟨label, moments, program⟩ := thread
  cases program with
  | done outcome => exact ⟨hsound.settles, .inl ⟨outcome, rfl⟩⟩
  | call request rest =>
      constructor
      · intro now hnow
        exact hsound.settles now ((List.prefix_append _ _).trans hnow)
      · exact .inr (List.getLast?_concat)

theorem Watched.Sound.continued {β : Type} {request : Call β}
    {rest : Except ε β → Program Call ε α} {state later : σ} {answer : Except ε β}
    (hsound : thread.Sound environment post state)
    (hprogram : thread.program = .call request rest)
    (hanswer : environment request state answer later) :
    (thread.continued later (rest answer)).Sound environment post later := by
  obtain ⟨label, moments, program⟩ := thread
  dsimp only at hprogram
  subst hprogram
  have hlast : moments.getLast? = some state := by
    rcases hsound.last with ⟨outcome, hdone⟩ | hlast
    · cases hdone
    · exact hlast
  constructor
  · exact (hsound.settles moments List.prefix_rfl trivial trivial answer (moments ++ [later])
      ⟨state, later, hlast, hanswer, rfl⟩).2.2
  · exact .inr (List.getLast?_concat)

variable {system : Watching L Call ε α σ}

theorem Watching.Reaches.sound
    (hstart : ∀ label state, (start label).SettlesWithin environment (post label) [state])
    {initial : σ} (hreaches : Watching.Reaches environment start initial system) :
    ∀ thread ∈ system.threads, thread.Sound environment post system.state := by
  induction hreaches with
  | refl => exact fun _ hthread => nomatch hthread
  | tail _ hstep ih =>
      cases hstep with
      | start label state threads =>
          intro thread hthread
          rcases List.mem_cons.mp hthread with rfl | hold
          · exact ⟨hstart label state, .inr rfl⟩
          · exact ih thread hold
      | advance request rest thread before after state answer later hprogram hanswer =>
          intro other hother
          rw [List.mem_append, List.mem_cons, List.mem_map, List.mem_map] at hother
          rcases hother with ⟨old, hold, rfl⟩ | rfl | ⟨old, hold, rfl⟩
          · exact (ih old (List.mem_append_left _ hold)).pass later
          · exact (ih thread (List.mem_append_right _ List.mem_cons_self)).continued hprogram
              hanswer
          · exact (ih old (List.mem_append_right _ (List.mem_cons_of_mem _ hold))).pass later

theorem Watching.Reaches.settled
    (hstart : ∀ label state, (start label).SettlesWithin environment (post label) [state])
    {initial : σ} (hreaches : Watching.Reaches environment start initial system)
    (hthread : thread ∈ system.threads) {outcome : Except ε α}
    (hsettled : thread.program = .done outcome) :
    post thread.label outcome thread.moments := by
  have hsound := (hreaches.sound hstart thread hthread).settles
  rw [hsettled] at hsound
  exact hsound

/-! ## Scheduled runs -/

def Watching.serve (handler : Program.Handler Call ε σ) (system : Watching L Call ε α σ)
    (index : Nat) : Watching L Call ε α σ :=
  match system.threads.drop index with
  | [] => system
  | thread :: after =>
      match thread.program with
      | .done _ => system
      | .call request rest =>
          let (answer, later) := handler request system.state
          { state := later
            threads := (system.threads.take index).map (Watched.pass later) ++
              thread.continued later (rest answer) :: after.map (Watched.pass later) }

theorem Watching.Reaches.serve {handler : Program.Handler Call ε σ}
    (hhandler : ∀ ⦃β : Type⦄ (request : Call β) state,
      environment request state (handler request state).1 (handler request state).2) {initial : σ}
    (hreaches : Watching.Reaches environment start initial system) (index : Nat) :
    Watching.Reaches environment start initial (system.serve handler index) := by
  unfold Watching.serve
  split
  · exact hreaches
  · rename_i thread after hdrop
    split
    · exact hreaches
    · rename_i β request rest hprogram
      have hsplit : system = ⟨system.state, system.threads.take index ++ thread :: after⟩ := by
        rw [← hdrop, List.take_append_drop]
      rw [hsplit] at hreaches
      exact hreaches.tail (.advance request rest thread _ after _ _ _ hprogram (hhandler _ _))

end Async
