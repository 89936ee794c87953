import TauriPlatform.AsyncSystem
import Mathlib.Algebra.BigOperators.Group.List.Basic

/-!
# Programs which hold shares

Programs in flight often hold something of which the shared state only knows the total: a
permit which has been taken, a failure which has not been recorded yet.  What is held is an
amount of a commutative monoid, and the invariant relates the state to the sum of what all
hold.  A call may change the share of the program which makes it, whatever the others hold.
The module names nothing of a particular program.
-/

namespace Async

universe u v

variable {L : Type v} {Call : Type → Type u} {ε α β σ M : Type} [AddCommMonoid M]

/-! ## Safe programs -/

section Safe

variable (environment : Environment Call ε σ) (Inv : σ → M → Prop) (Grows : σ → σ → Prop)

/-- Every call of the program, made with its share in hand and any shares in the hands of the
others, keeps the invariant; when it settles, `post` holds of its share. -/
def Program.SafeHolding (post : Except ε α → M → σ → Prop) :
    Program Call ε α → M → σ → Prop
  | .done outcome, held, state => post outcome held state
  | .call request rest, held, state =>
      ∀ now others, Grows state now → Inv now (held + others) →
        ∀ answer later, environment request now answer later →
          ∃ held', Inv later (held' + others) ∧ Grows now later ∧
            SafeHolding post (rest answer) held' later

variable {environment Inv Grows} {post post' : Except ε α → M → σ → Prop} {held : M} {state : σ}

variable {program : Program Call ε α}

theorem Program.SafeHolding.mono
    (himp : ∀ outcome held state, post outcome held state → post' outcome held state)
    (hsafe : program.SafeHolding environment Inv Grows post held state) :
    program.SafeHolding environment Inv Grows post' held state := by
  induction program generalizing held state with
  | done outcome => exact himp outcome held state hsafe
  | call request rest ih =>
      intro now others hnow hinv answer later hanswer
      obtain ⟨held', hinv', hgrows, hrest⟩ := hsafe now others hnow hinv answer later hanswer
      exact ⟨held', hinv', hgrows, ih answer hrest⟩

theorem Program.SafeHolding.grow (htrans : ∀ a b c, Grows a b → Grows b c → Grows a c)
    (hpost : ∀ outcome held state later, post outcome held state → Grows state later →
      post outcome held later) {later : σ}
    (hsafe : program.SafeHolding environment Inv Grows post held state)
    (hgrows : Grows state later) :
    program.SafeHolding environment Inv Grows post held later := by
  cases program with
  | done outcome => exact hpost _ _ _ _ hsafe hgrows
  | call request rest =>
      intro now others hnow
      exact hsafe now others (htrans _ _ _ hgrows hnow)

theorem Program.SafeHolding.bind {next : α → Program Call ε β}
    {postNext : Except ε β → M → σ → Prop} (hsafe : program.SafeHolding environment Inv Grows
      (fun outcome held state =>
        match outcome with
        | .ok value => (next value).SafeHolding environment Inv Grows postNext held state
        | .error error => postNext (.error error) held state) held state) :
    (program >>= next).SafeHolding environment Inv Grows postNext held state := by
  change (program.bind next).SafeHolding environment Inv Grows postNext held state
  induction program generalizing held state with
  | done outcome =>
      cases outcome with
      | ok value => exact hsafe
      | error error => exact hsafe
  | call request rest ih =>
      intro now others hnow hinv answer later hanswer
      obtain ⟨held', hinv', hgrows, hrest⟩ := hsafe now others hnow hinv answer later hanswer
      exact ⟨held', hinv', hgrows, ih answer hrest⟩

theorem Program.SafeHolding.tryCatch {recover : ε → Program Call ε α}
    (hsafe : program.SafeHolding environment Inv Grows
      (fun outcome held state =>
        match outcome with
        | .ok value => post (.ok value) held state
        | .error error =>
            (recover error).SafeHolding environment Inv Grows post held state) held state) :
    (tryCatch program recover).SafeHolding environment Inv Grows post held state := by
  change (program.catchError recover).SafeHolding environment Inv Grows post held state
  induction program generalizing held state with
  | done outcome =>
      cases outcome with
      | ok value => exact hsafe
      | error error => exact hsafe
  | call request rest ih =>
      intro now others hnow hinv answer later hanswer
      obtain ⟨held', hinv', hgrows, hrest⟩ := hsafe now others hnow hinv answer later hanswer
      exact ⟨held', hinv', hgrows, ih answer hrest⟩

end Safe

/-! ## Runs -/

section Runs

variable {environment : Environment Call ε σ} {start : L → Program Call ε α}
  {Allowed : L → σ → Prop} {Inv : σ → M → Prop} {Grows : σ → σ → Prop}

def Thread.Holds (environment : Environment Call ε σ) (Inv : σ → M → Prop)
    (Grows : σ → σ → Prop) (state : σ) (thread : Thread L Call ε α) (held : M) : Prop :=
  thread.program.SafeHolding environment Inv Grows (fun _ _ _ => True) held state

def System.Holding (environment : Environment Call ε σ) (Inv : σ → M → Prop)
    (Grows : σ → σ → Prop) (system : System L Call ε α σ) : Prop :=
  ∃ shares : List M, Inv system.state shares.sum ∧
    List.Forall₂ (Thread.Holds environment Inv Grows system.state) system.threads shares

theorem Thread.Holds.grow (htrans : ∀ a b c, Grows a b → Grows b c → Grows a c)
    {threads : List (Thread L Call ε α)} {shares : List M} {state later : σ}
    (hthreads : List.Forall₂ (Thread.Holds environment Inv Grows state) threads shares)
    (hgrows : Grows state later) :
    List.Forall₂ (Thread.Holds environment Inv Grows later) threads shares :=
  hthreads.imp fun _ _ hholds =>
    Program.SafeHolding.grow htrans (fun _ _ _ _ _ _ => trivial) hholds hgrows

theorem System.Holding.step (hrefl : ∀ state, Grows state state)
    (htrans : ∀ a b c, Grows a b → Grows b c → Grows a c)
    (hlost : ∀ state held others, Inv state (held + others) → Inv state others)
    (hstart : ∀ label state,
      (start label).SafeHolding environment Inv Grows (fun _ _ _ => True) 0 state)
    {system later : System L Call ε α σ} (hholding : system.Holding environment Inv Grows)
    (hstep : System.Step environment start Allowed system later) :
    later.Holding environment Inv Grows ∧ Grows system.state later.state := by
  obtain ⟨shares, hinv, hthreads⟩ := hholding
  cases hstep with
  | start label state threads =>
      refine ⟨⟨0 :: shares, ?_, .cons (hstart label state) hthreads⟩, hrefl state⟩
      rw [List.sum_cons, zero_add]
      exact hinv
  | advance request rest label state before after answer next hallowed hanswer =>
      obtain ⟨front, held, back, rfl, hfront, hthread, hback⟩ := forall₂_append_cons hthreads
      -- what the others hold, before and behind the thread which moves
      have hsum : ∀ share : M,
          (front ++ share :: back).sum = share + (front.sum + back.sum) := by
        intro share
        rw [List.sum_append, List.sum_cons, add_left_comm]
      rw [hsum] at hinv
      obtain ⟨held', hinv', hgrows, hrest⟩ :=
        hthread state _ (hrefl state) hinv answer next hanswer
      refine ⟨⟨front ++ held' :: back, ?_, ?_⟩, hgrows⟩
      · rw [hsum]
        exact hinv'
      · exact List.rel_append (Thread.Holds.grow htrans hfront hgrows)
          (.cons hrest (Thread.Holds.grow htrans hback hgrows))
  | drop thread state before after =>
      obtain ⟨front, held, back, rfl, hfront, -, hback⟩ := forall₂_append_cons hthreads
      refine ⟨⟨front ++ back, ?_, List.rel_append hfront hback⟩, hrefl state⟩
      rw [List.sum_append, List.sum_cons, add_left_comm] at hinv
      rw [List.sum_append]
      exact hlost state held _ hinv

theorem System.Holding.run (hrefl : ∀ state, Grows state state)
    (htrans : ∀ a b c, Grows a b → Grows b c → Grows a c)
    (hlost : ∀ state held others, Inv state (held + others) → Inv state others)
    (hstart : ∀ label state,
      (start label).SafeHolding environment Inv Grows (fun _ _ _ => True) 0 state)
    {system later : System L Call ε α σ} (hholding : system.Holding environment Inv Grows)
    (hsteps : Relation.ReflTransGen (System.Step environment start Allowed) system later) :
    later.Holding environment Inv Grows ∧ Grows system.state later.state := by
  induction hsteps with
  | refl => exact ⟨hholding, hrefl _⟩
  | tail _ hstep ih =>
      obtain ⟨hnext, hgrows⟩ := ih.1.step hrefl htrans hlost hstart hstep
      exact ⟨hnext, htrans _ _ _ ih.2 hgrows⟩

theorem System.Holding.initial {initial : σ} (hinitial : Inv initial 0) :
    (⟨initial, []⟩ : System L Call ε α σ).Holding environment Inv Grows :=
  ⟨[], hinitial, .nil⟩

end Runs
end Async
