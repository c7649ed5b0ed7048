/-
**Messages sent in pieces, and put together again without sequence numbers.**

A sender has at most one message under way. A piece starts a message, goes into it or finishes it; a
piece may also have nothing to do with it. A receiver appends what it hears to what it holds.

* `Agree` — what is held is what is under way, where there is both.
* `Agree.start`, `Agree.more` — a piece that is taken in keeps the agreement.
-/

import Mathlib.Tactic

namespace Bluestation.Reassembly

open Option

variable {Head Part : Type}

structure Message (Head Part : Type) where
  head : Head
  content : List Part

def Message.append (message : Message Head Part) (more : List Part) : Message Head Part :=
  { message with content := message.content ++ more }

inductive Piece (Head Part : Type) where
  /-- No part of a message in pieces. -/
  | whole
  | start (message : Message Head Part)
  | more (content : List Part)
  | finish (content : List Part)

namespace Piece

/-- What is under way after a piece. -/
def after (underWay : Option (Message Head Part)) : Piece Head Part → Option (Message Head Part)
  | whole => underWay
  | start message => some message
  | more content => underWay.map (·.append content)
  | finish _ => none

/-- The message that a piece completes. -/
def completes (underWay : Option (Message Head Part)) :
    Piece Head Part → Option (Message Head Part)
  | finish content => underWay.map (·.append content)
  | _ => none

/-- A piece that goes into a message needs one. -/
def inOrder (underWay : Option (Message Head Part)) : Piece Head Part → Bool
  | whole | start _ => true
  | more _ | finish _ => underWay.isSome

/-- A piece without which what is held is no different from what is under way. -/
def missable : Piece Head Part → Bool
  | whole | finish _ => true
  | start _ | more _ => false

end Piece

/-- What is under way after pieces. -/
def afterAll (underWay : Option (Message Head Part)) (pieces : List (Piece Head Part)) :
    Option (Message Head Part) :=
  pieces.foldl Piece.after underWay

/-- The messages that pieces complete. -/
def completesAll : Option (Message Head Part) → List (Piece Head Part) → List (Message Head Part)
  | _, [] => []
  | underWay, piece :: rest =>
    (piece.completes underWay).toList ++ completesAll (piece.after underWay) rest

/-- Pieces sent one after the other. -/
def inOrderAll : Option (Message Head Part) → List (Piece Head Part) → Bool
  | _, [] => true
  | underWay, piece :: rest => piece.inOrder underWay && inOrderAll (piece.after underWay) rest

/-- Nothing is held, or every piece may be missed. -/
def HarmlessToMiss (held : Option (Message Head Part)) (pieces : List (Piece Head Part)) : Prop :=
  held = none ∨ ∀ piece ∈ pieces, piece.missable = true

/-- Where something is held and something is under way, it is the same. -/
def Agree (held underWay : Option (Message Head Part)) : Prop :=
  ∀ message ∈ held, ∀ other ∈ underWay, message = other

theorem Agree.none (underWay : Option (Message Head Part)) : Agree none underWay :=
  nofun

variable {held underWay : Option (Message Head Part)}

/-- **A piece is missed without harm** if nothing is held, or if it only ends the message. -/
theorem Agree.missed {piece : Piece Head Part} (agree : Agree held underWay)
    (quiet : held = .none ∨ piece.missable = true) : Agree held (piece.after underWay) := by
  rcases quiet with rfl | missable
  · exact .none _
  · cases piece with
    | whole => exact agree
    | start message => contradiction
    | more content => contradiction
    | finish content => exact fun _ _ _ other => nomatch other

theorem Agree.missedAll {pieces : List (Piece Head Part)} (agree : Agree held underWay)
    (quiet : HarmlessToMiss held pieces) : Agree held (afterAll underWay pieces) := by
  induction pieces generalizing underWay with
  | nil => exact agree
  | cons piece rest ih =>
    refine ih (agree.missed (quiet.imp_right fun all => all piece List.mem_cons_self)) ?_
    exact quiet.imp_right fun all other member => all other (List.mem_cons_of_mem _ member)

/-- What is held after a first piece is what is under way. -/
theorem Agree.start (message : Message Head Part) (underWay : Option (Message Head Part)) :
    Agree (some message) ((Piece.start message).after underWay) := by
  intro held isHeld other isOther
  cases isHeld
  cases isOther
  rfl

/-- **A piece that is appended keeps the agreement.** -/
theorem Agree.more (agree : Agree held underWay) (content : List Part) :
    Agree (held.map (·.append content)) ((Piece.more content).after underWay) := by
  intro message isHeld other isOther
  obtain ⟨before, wasHeld, rfl⟩ := map_eq_some_iff.mp isHeld
  obtain ⟨sent, wasSent, rfl⟩ := map_eq_some_iff.mp isOther
  rw [agree before wasHeld sent wasSent]

/-- **The last piece completes what was held.** -/
theorem Agree.completes_finish (agree : Agree held underWay) {message : Message Head Part}
    {content : List Part} (isHeld : held = some message)
    (inOrder : (Piece.finish content : Piece Head Part).inOrder underWay = true) :
    (Piece.finish content).completes underWay = some (message.append content) := by
  obtain ⟨sent, isSent⟩ := isSome_iff_exists.mp inOrder
  subst isSent
  rw [agree message isHeld sent rfl]
  rfl

end Bluestation.Reassembly
