import Marktree.Node.Basic
import Marktree.Text.Reference

/-!
# Placeholders

A registry holds nodes in numbered slots: numbers are given out in order from zero, and the node of a
slot can be taken once. A node travels through text as a token: the number of its slot between double
braces. A stream of tokens and other text is read in two steps: `pieces` cuts it into tokens and leaks,
`resolve` takes the nodes of the tokens out of a registry and makes a text node of each leak.
-/
namespace Marktree.Node

structure Registry where
  slots : Array (Option Node) := #[]
  deriving Inhabited

namespace Registry

/-- The number of slots, also of those whose node was taken. -/
def size (r : Registry) : Nat :=
  r.slots.size

/-- The node that a slot holds. -/
def get? (r : Registry) (i : Nat) : Option Node :=
  r.slots[i]?.join

/-- Puts a node into a new slot; the number of the slot comes with it. -/
def register (r : Registry) (n : Node) : Nat × Registry :=
  (r.size, ⟨r.slots.push (some n)⟩)

/-- Takes the node out of a slot, if there is one. -/
def take (r : Registry) (i : Nat) : Option Node × Registry :=
  match r.get? i with
  | some n => (some n, ⟨r.slots.setIfInBounds i none⟩)
  | none => (none, r)

/-- The number of slots whose node was not taken. -/
def unconsumed (r : Registry) : Nat :=
  r.slots.countP (·.isSome)

end Registry

end Marktree.Node

/-! ## Tokens -/

namespace Marktree.Node.Placeholder

def encodeChars (i : Nat) : List Char :=
  ['\x7b', '\x7b'] ++ Nat.toDigits 10 i ++ ['\x7d', '\x7d']

/-- The token of a slot. -/
def encode (i : Nat) : String :=
  String.ofList (encodeChars i)

inductive Piece
  | token (digits : List Char)
  | leak (text : List Char)
  deriving Repr, DecidableEq

/-- The digits of a token at the front of a stream, and what follows it. -/
def token? : List Char → Option (List Char × List Char)
  | '\x7b' :: '\x7b' :: cs =>
    match cs.takeWhile Char.isDigit, cs.dropWhile Char.isDigit with
    | d :: ds, '\x7d' :: '\x7d' :: rest => some (d :: ds, rest)
    | _, _ => none
  | _ => none

/-- A stream up to the next double brace, and the rest from there. -/
def leak : List Char → List Char × List Char
  | [] => ([], [])
  | '\x7b' :: '\x7b' :: cs => ([], '\x7b' :: '\x7b' :: cs)
  | c :: cs => (c :: (leak cs).1, (leak cs).2)

theorem length_leak (s : List Char) : (leak s).1.length + (leak s).2.length = s.length := by
  fun_induction leak s with
  | case1 => rfl
  | case2 => simp
  | case3 c cs _ ih => simp only [List.length_cons]; omega

theorem length_of_token? {s ds rest : List Char} (h : token? s = some (ds, rest)) :
    rest.length < s.length := by
  unfold token? at h
  split at h
  · rename_i cs
    split at h
    · rename_i d ds' rest' h₁ h₂
      have hlen := congrArg List.length h₂
      have := (List.dropWhile_sublist Char.isDigit (l := cs)).length_le
      simp only [Option.some.injEq, Prod.mk.injEq] at h
      obtain ⟨-, rfl⟩ := h
      simp only [List.length_cons] at hlen ⊢
      omega
    · simp at h
  · simp at h

/-- Tokens and the leaks between them. A double brace that starts no token makes the rest of the
stream one leak. -/
def pieces (s : List Char) : List Piece :=
  match _h : token? s with
  | some (ds, rest) => .token ds :: pieces rest
  | none =>
    match s with
    | [] => []
    | c :: cs =>
      match (leak (c :: cs)).1 with
      | [] => [.leak (c :: cs)]
      | l :: ls => .leak (l :: ls) :: pieces ((c :: cs).drop (l :: ls).length)
termination_by s.length
decreasing_by
  · exact length_of_token? _h
  · simp only [List.length_drop, List.length_cons]; omega

/-- What a piece stands for. A token whose slot holds no node stands for nothing. -/
def resolve (r : Registry) : Piece → Option Node × Registry
  | .token ds =>
    match Text.number? 10 ds with
    | some i => r.take i
    | none => (none, r)
  | .leak cs => (some (.text (String.ofList (Text.unescapeChars cs))), r)

def resolveAll (r : Registry) : List Piece → List Node × Registry
  | [] => ([], r)
  | p :: ps =>
    let (n?, r) := resolve r p
    let (ns, r) := resolveAll r ps
    (n?.toList ++ ns, r)

def decodeChars (r : Registry) (s : List Char) : List Node × Registry :=
  resolveAll r (pieces s)

/-- The nodes that a stream stands for, taken out of the registry. -/
def decode (r : Registry) (stream : String) : List Node × Registry :=
  decodeChars r stream.toList

end Marktree.Node.Placeholder
