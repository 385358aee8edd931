import Mathlib.Data.List.Basic
import Mathlib.Logic.Relation

/-!
A stop-and-wait request protocol whose server remembers one transaction.

The client begins transactions one after another, each with a label, and may send
any number of copies of the latest one.  The request link loses copies and keeps
their order.  The server executes a request whose label differs from the one it
remembers and repeats the remembered result otherwise.  Replies may be lost, and
unless the run is `ordered` they may also overtake one another.

Transactions are numbered by their position in `begun`.  The numbers are not part of
the messages: client and server compare labels only, and labels may repeat.
-/

namespace StopAndWait

/-- `begun` labels every transaction; everywhere else a transaction is its number there. -/
structure State (Label Result : Type) where
  begun : List Label
  requests : List Nat
  memory : Option (Label × Result)
  served : Option Nat
  executed : List (Nat × Result)
  replayed : List (Nat × Result)
  replies : List (Nat × Result)
  accepted : List (Nat × Result)
  waiting : Bool

def initial (Label Result : Type) : State Label Result where
  begun := []
  requests := []
  memory := none
  served := none
  executed := []
  replayed := []
  replies := []
  accepted := []
  waiting := false

/-- A transaction of the session `mine` is begun as its first one or right after one of
its transactions was acknowledged. -/
def Gate {Label Result : Type} (mine : Label → Prop) (state : State Label Result)
    (label : Label) : Prop :=
  mine label → (∀ earlier ∈ state.begun, ¬mine earlier) ∨
    (state.waiting = false ∧ ∃ last, state.begun.getLast? = some last ∧ mine last)

/-- One step of the protocol.  `mine` selects the labels of one client session. -/
inductive Step {Label Result : Type} (ordered : Prop) (mine : Label → Prop) :
    State Label Result → State Label Result → Prop
  | begin {state} (label : Label) (gate : Gate mine state label) :
      Step ordered mine state { state with begun := state.begun ++ [label], waiting := true }
  | send {state} {current : Nat} (latest : state.begun.length = current + 1) :
      Step ordered mine state { state with requests := state.requests ++ [current] }
  | loseRequests {state} {kept : List Nat} (remaining : kept.Sublist state.requests) :
      Step ordered mine state { state with requests := kept }
  | execute {state} {number : Nat} {rest : List Nat} {label : Label} (result : Result)
      (first : state.requests = number :: rest) (labelled : state.begun[number]? = some label)
      (unknown : ∀ remembered, state.memory ≠ some (label, remembered)) :
      Step ordered mine state
        { state with
          requests := rest
          memory := some (label, result)
          served := some number
          executed := state.executed ++ [(number, result)] }
  | replay {state} {number : Nat} {rest : List Nat} {label : Label} {result : Result}
      (first : state.requests = number :: rest) (labelled : state.begun[number]? = some label)
      (known : state.memory = some (label, result)) :
      Step ordered mine state
        { state with
          requests := rest
          served := some number
          replayed := state.replayed ++ [(number, result)] }
  | reply {state} {number : Nat} {label : Label} {result : Result}
      (handled : state.served = some number) (known : state.memory = some (label, result)) :
      Step ordered mine state { state with replies := state.replies ++ [(number, result)] }
  | loseReplies {state} {kept : List (Nat × Result)} (remaining : kept.Sublist state.replies) :
      Step ordered mine state { state with replies := kept }
  | accept {state} {before after : List (Nat × Result)} {number current : Nat} {result : Result}
      (received : state.replies = before ++ (number, result) :: after)
      (inOrder : ordered → before = []) (open_ : state.waiting = true)
      (latest : state.begun.length = current + 1)
      (matched : state.begun[number]? = state.begun[current]?) :
      Step ordered mine state
        { state with
          replies := before ++ after
          accepted := state.accepted ++ [(current, result)]
          waiting := false }

def Reachable {Label Result : Type} (ordered : Prop) (mine : Label → Prop)
    (state : State Label Result) : Prop :=
  Relation.ReflTransGen (Step ordered mine) (initial Label Result) state

theorem Reachable.next {Label Result : Type} {ordered : Prop} {mine : Label → Prop}
    {state next : State Label Result} (reached : Reachable ordered mine state)
    (step : Step ordered mine state next) : Reachable ordered mine next :=
  Relation.ReflTransGen.tail reached step

theorem reachable_invariant {Label Result : Type} {ordered : Prop} {mine : Label → Prop}
    (holds : State Label Result → Prop) (initially : holds (initial Label Result))
    (preserved : ∀ state next, holds state → Step ordered mine state next → holds next)
    {state : State Label Result} (reached : Reachable ordered mine state) : holds state := by
  induction reached with
  | refl => exact initially
  | tail _ step ih => exact preserved _ _ ih step

end StopAndWait
