import Marktree.Event

/-!
# Emphasis and quotes

The last step of inline markup: a list of items in which links are already found becomes events.
Runs of stars, underscores and tildes are matched from left to right, a run that closes with the
nearest run before it that fits; quotes become typographic quotes.
-/
namespace Marktree.Markdown

/-- Inline markup in which links are found. -/
inductive Item
  | events (events : List Event)
  | delimiter (char : Char) (run : Nat) (opens closes : Bool)
  | quote (char : Char) (opens closes : Bool)
  | hardBreak (backslash : Bool)
  | span (tag : Tag) (children : List Item)
  deriving Inhabited

namespace Emphasis

/-- An item whose children are events. -/
inductive Flat
  | events (events : List Event)
  | delimiter (char : Char) (run : Nat) (opens closes : Bool)
  | quote (char : Char) (opens closes : Bool)
  | hardBreak (backslash : Bool)
  deriving Inhabited

/-- It is decided only here what the item comes to. -/
def Flat.isOpen : Flat → Bool
  | delimiter .. => true
  | quote .. => true
  | _ => false

/-! ## Quotes -/

/-- The places of the single quotes that are closed later. -/
def closedSingles (i : Nat) (single : Option Nat) : List Flat → List Nat
  | [] => []
  | .quote '\'' opens closes :: rest =>
    match single, closes with
    | some j, true => j :: closedSingles (i + 1) none rest
    | _, _ => closedSingles (i + 1) (if opens then some i else single) rest
  | _ :: rest => closedSingles (i + 1) single rest

def curlyFrom (singles : List Nat) (i : Nat) (double : Bool) : List Flat → List Flat
  | [] => []
  | .quote '\'' _ _ :: rest =>
    .events [.text (if singles.contains i then "\u2018" else "\u2019")] ::
      curlyFrom singles (i + 1) double rest
  | .quote _ opens closes :: rest =>
    if closes && double then
      .events [.text "\u201d"] :: curlyFrom singles (i + 1) false rest
    else .events [.text "\u201c"] :: curlyFrom singles (i + 1) (double || opens) rest
  | x :: rest => x :: curlyFrom singles (i + 1) double rest

/-- Quotes as text. A single quote opens if a later one closes it, else it is an apostrophe. -/
def curly (items : List Flat) : List Flat :=
  curlyFrom (closedSingles 0 none items) 0 false items

/-! ## Runs -/

/-- A run that may still be closed. -/
structure Opener where
  char : Char
  /-- The length that the run had at first. -/
  run : Nat
  /-- The characters that are left of it. -/
  count : Nat
  /-- It could also have closed a run. -/
  both : Bool
  /-- The events after it, in reverse. -/
  inner : List Event
  deriving Inhabited

/-- What is left of a run as text. -/
def runText (c : Char) (n : Nat) : Event :=
  .text (String.ofList (List.replicate n c))

/-- Runs that are searched for alike. -/
inductive Kind
  | tilde
  | oneSided (char : Char)
  | sized (char : Char) (residue : Nat)
  deriving DecidableEq

/-- Per kind, how many of the lowest openers need no more be looked at. -/
abbrev Bounds := Kind → Nat

def Bounds.set (b : Bounds) (k : Kind) (n : Nat) : Bounds :=
  fun j => if j = k then n else b j

def Bounds.truncate (b : Bounds) (n : Nat) : Bounds :=
  fun j => min (b j) n

def Bounds.get (b : Bounds) (c : Char) (run : Nat) (both : Bool) : Nat :=
  if c = '~' then b .tilde
  else
    let n := b (.sized c (run % 3))
    if both then n else min n (b (.oneSided c))

/-- Nothing was found below `n` for a run. -/
def Bounds.note (b : Bounds) (c : Char) (run : Nat) (both : Bool) (n : Nat) : Bounds :=
  if c = '~' then b.set .tilde n
  else if c = '*' then
    let b := b.set (.sized c (run % 3)) n
    if both then b else b.set (.oneSided c) n
  else b.set (if both then .sized c (run % 3) else .oneSided c) n

structure State where
  /-- The openers from the last on. -/
  openers : List Opener := []
  /-- The events before all openers, in reverse. -/
  before : List Event := []
  bounds : Bounds := fun _ => 0

namespace State

/-- Adds events, which are in reverse. -/
def add (s : State) (es : List Event) : State :=
  match s.openers with
  | [] => { s with before := es ++ s.before }
  | o :: os => { s with openers := { o with inner := es ++ o.inner } :: os }

/-- The events of openers that stay open, in reverse. -/
def flatten (os : List Opener) : List Event :=
  os.flatMap fun o => o.inner ++ [runText o.char o.count]

/-- A run can close an opener: not if their lengths sum up to a multiple of three, one of them could
both open and close, and they are no multiples of three themselves. -/
def fits (c : Char) (run : Nat) (both : Bool) (o : Opener) : Bool :=
  (c != '~' || run == o.run) && o.char == c &&
    ((!both && !o.both) || (run + o.run) % 3 != 0 || run % 3 == 0)

/-- The spans that `n` characters of a run make, from the inside out. -/
def spans (c : Char) (n : Nat) : List Tag :=
  if c = '~' then [.strikethrough]
  else List.replicate (n / 2) .strong ++ (if n % 2 = 1 then [.emphasis] else [])

/-- Events in reverse with spans around them. -/
def enclose (es : List Event) (tags : List Tag) : List Event :=
  tags.foldl (fun es t => .stop t.closing :: (es ++ [.start t])) es

/-- Closes openers with the `count` characters that are left of a run. -/
def close (s : State) (c : Char) (run : Nat) (both : Bool) (count : Nat) (fuel : Nat) :
    State × Nat :=
  match fuel with
  | 0 => (s, count)
  | fuel + 1 =>
    if count = 0 then (s, 0)
    else
      let low := min s.openers.length (s.bounds.get c run both)
      match (s.openers.take (s.openers.length - low)).findIdx? (fits c run both) with
      | none => ({ s with bounds := s.bounds.note c run both s.openers.length }, count)
      | some j =>
        match s.openers.drop j with
        | [] => (s, count)
        | o :: below =>
          let n := min count o.count
          let es := enclose (flatten (s.openers.take j) ++ o.inner) (spans c n)
          let s := { s with openers := below, bounds := s.bounds.truncate below.length }
          let s :=
            if n < o.count then
              { s with openers := { o with count := o.count - n, inner := es } :: below }
            else s.add es
          s.close c run both (count - n) fuel

/-- Reads a run. -/
def delimiter (s : State) (c : Char) (run : Nat) (opens closes : Bool) : State :=
  let both := opens && closes
  let (s, count) := if closes then s.close c run both run run else (s, run)
  if count = 0 then s
  else if opens then { s with openers := ⟨c, run, count, both, []⟩ :: s.openers }
  else s.add [runText c count]

/-- All events in order. -/
def finish (s : State) : List Event :=
  (flatten s.openers ++ s.before).reverse

end State

/-! ## Items as events -/

def State.item (s : State) : Flat → State
  | .events es => s.add es.reverse
  | .delimiter c n opens closes => s.delimiter c n opens closes
  | .quote c _ _ => s.add [.text (String.singleton c)]
  | .hardBreak _ => s.add [.hardBreak]

/-- A break that ends the items is none. -/
def endBreak : List Flat → List Flat
  | [] => []
  | [.hardBreak backslash] => [.events [if backslash then .text "\\" else .softBreak]]
  | x :: xs => x :: endBreak xs

/-- The events of items. A break at the end counts only if all items are decided. -/
def settle (decided : Bool) (items : List Flat) : List Event :=
  let items := curly items
  ((if decided then items else endBreak items).foldl State.item {}).finish

mutual

def flat : Item → Flat
  | .events es => .events es
  | .delimiter c n opens closes => .delimiter c n opens closes
  | .quote c opens closes => .quote c opens closes
  | .hardBreak backslash => .hardBreak backslash
  | .span tag children =>
    let inner := flatAll children
    .events (.start tag :: (settle (!inner.any Flat.isOpen) inner ++ [.stop tag.closing]))

def flatAll : List Item → List Flat
  | [] => []
  | x :: xs => flat x :: flatAll xs

end

/-- The events of items; whether nothing was open before links were looked for is told. -/
def resolve (decided : Bool) (items : List Item) : List Event :=
  settle decided (flatAll items)

end Emphasis

end Marktree.Markdown
