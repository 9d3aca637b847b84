import StreamingChat.Client.Basic

/-!
The notices a listener has not yet taken. A listener that is slow loses the oldest ones and is told
how many.
-/

namespace StreamingChat.Client

structure Subscription where
  /-- Oldest first, at most `capacity`. -/
  waiting : List Notice := []
  /-- How many were lost since the listener was last told. -/
  missed : Nat := 0

inductive Heard where
  | notice (n : Notice)
  | lagged (count : Nat)

namespace Subscription

def capacity : Nat := 256

def push (s : Subscription) (n : Notice) : Subscription :=
  if s.waiting.length < capacity then { s with waiting := s.waiting ++ [n] }
  else { waiting := s.waiting.drop 1 ++ [n], missed := s.missed + 1 }

def pushAll (s : Subscription) (ns : List Notice) : Subscription :=
  ns.foldl push s

/-- What the listener hears next: first of all how much it has lost. -/
def next? (s : Subscription) : Option (Heard × Subscription) :=
  if 0 < s.missed then some (.lagged s.missed, { s with missed := 0 })
  else
    match s.waiting with
    | [] => none
    | n :: rest => some (.notice n, { s with waiting := rest })

/-- All that there is to hear. -/
def drain (s : Subscription) : List Heard :=
  (if 0 < s.missed then [.lagged s.missed] else []) ++ s.waiting.map .notice

theorem length_push (s : Subscription) (n : Notice) (h : s.waiting.length ≤ capacity) :
    (s.push n).waiting.length ≤ capacity := by
  unfold push
  split
  · simp; omega
  · simp [capacity] at *; omega

end Subscription

end StreamingChat.Client
