import StyleBuild.Regex.Basic

/-!
# Matching

A match is followed by threads: what is left of the expression after the characters read so far,
in order of preference. `Regex.heads` says how an expression can go on from a place. A thread
that is done beats all later threads, so these are dropped.
-/

namespace StyleBuild

namespace Regex

/-- How an expression can go on: it is done, or it reads a character of a set and goes on with
the rest. -/
inductive Head where
  | done
  | step (set : CharSet) (rest : List Regex)
  deriving DecidableEq, Repr, Inhabited

/-- Whether a head is done. -/
def Head.isDone : Head → Bool
  | .done => true
  | .step .. => false

/-- A head followed by more: what is done goes on with `next`, what is not has `rest` to do
after it. -/
def Head.andThen (next : Unit → List Head) (rest : List Regex) : Head → List Head
  | .done => next ()
  | .step set k => [.step set (k ++ rest)]

/-- Prefer some heads to others. Being done twice is being done once. -/
def preferring (first second : List Head) : List Head :=
  if first.any Head.isDone then first ++ second.filter (!·.isDone) else first ++ second

/-- How `n` rounds can go on, given how one round can. Rounds that read nothing are one round. -/
def timesHeads (r : Regex) (round : List Head) : Nat → List Head
  | 0 => [.done]
  | n + 1 =>
    if round.all Head.isDone then round
    else round.flatMap (Head.andThen (fun _ => timesHeads r round n) [.times n r])

/-- How at most `n` rounds can go on, given how one round can. -/
def upToHeads (r : Regex) (greedy : Bool) (round : List Head) : Nat → List Head
  | 0 => [.done]
  | n + 1 =>
    let rounds :=
      round.flatMap (Head.andThen (fun _ => upToHeads r greedy round n) [.upTo n greedy r])
    if greedy then preferring rounds [.done] else preferring [.done] rounds

/-- How an expression can go on between two neighbours. A round that reads nothing ends a
repetition. -/
def heads (before after : Option Char) : Regex → List Head
  | .empty => [.done]
  | .oneOf set => [.step set []]
  | .at place => if place.holds before after then [.done] else []
  | .seq a b =>
    (heads before after a).flatMap (Head.andThen (fun _ => heads before after b) [b])
  | .alt a b => preferring (heads before after a) (heads before after b)
  | .plus r greedy =>
    (heads before after r).flatMap (Head.andThen (fun _ => [.done]) [.again r greedy])
  | .again r greedy =>
    let rounds := (heads before after r).flatMap (Head.andThen (fun _ => []) [.again r greedy])
    if greedy then rounds ++ [.done] else .done :: rounds
  | .times n r => timesHeads r (heads before after r) n
  | .upTo n greedy r => upToHeads r greedy (heads before after r) n

/-- How a thread can go on, and the threads that have been followed since the last character. A
thread that was followed before has nothing new to offer. -/
def threadHeads (before after : Option Char) (seen : List (List Regex)) :
    List Regex → List Head × List (List Regex)
  | [] => ([.done], seen)
  | r :: k =>
    if seen.contains (r :: k) then ([], seen)
    else
      let own := heads before after r
      let (behind, seen) :=
        if own.any Head.isDone then threadHeads before after ((r :: k) :: seen) k
        else ([], (r :: k) :: seen)
      (own.flatMap (Head.andThen (fun _ => behind) k), seen)

/-- How some threads can go on, in order of preference. -/
def allHeads (before after : Option Char) (seen : List (List Regex)) :
    List (List Regex) → List Head
  | [] => []
  | t :: ts =>
    let (hs, seen) := threadHeads before after seen t
    hs ++ allHeads before after seen ts

/-- The first of each of some equal threads. -/
def distinct : List (List Regex) → List (List Regex)
  | [] => []
  | t :: ts => t :: (distinct ts).filter (· != t)

/-- The threads that are left after a character. -/
def survivors (c : Char) (hs : List Head) : List (List Regex) :=
  distinct (hs.filterMap fun
    | .step set k => if set.contains c then some k else none
    | .done => none)

/-- The length of the preferred match of some threads, `n` characters into the match; `found` is
the length of the best match so far. -/
def follow (before : Option Char) (threads : List (List Regex)) (n : Nat) (found : Option Nat)
    (text : List Char) : Option Nat :=
  let hs := allHeads before text.head? [] threads
  let found := if hs.any Head.isDone then some n else found
  match text with
  | [] => found
  | c :: cs =>
    match survivors c (hs.takeWhile (!·.isDone)) with
    | [] => found
    | next => follow (some c) next (n + 1) found cs

/-- The length of the preferred match at the start of a text. -/
def matchLength (r : Regex) (before : Option Char) (text : List Char) : Option Nat :=
  follow before [[r]] 0 none text

/-- The matches in a text that are not empty, from left to right, none of which meets another. -/
def tokens (r : Regex) (before : Option Char) : List Char → List (List Char)
  | [] => []
  | c :: cs =>
    match r.matchLength before (c :: cs) with
    | some (n + 1) =>
      (c :: cs.take n) :: tokens r (c :: cs.take n).getLast? (cs.drop n)
    | _ => tokens r (some c) cs
  termination_by text => text.length
  decreasing_by all_goals (simp only [List.length_cons, List.length_drop]; omega)

end Regex

end StyleBuild
