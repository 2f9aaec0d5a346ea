import StackLang.Symbol
import StackLang.Token.Cursor

/-! # Reading items one by one

A reader of items that can look one item ahead. A table of spellings meets each name as soon as it
is scanned, whether the item is taken or only looked at.

* `Lookahead` — the state of such a reader.
* `Lookahead.peek` — look at the next item.
* `Lookahead.next` — take the next item. -/

namespace StackLang

/-- The state of a reader of items. -/
structure Lookahead where
  /-- The place in the source behind the items scanned. -/
  cursor : Cursor
  /-- What was looked at and not yet taken: an item, or the end of the text. -/
  pending : Option (Option Item)
  /-- The table that meets the names. -/
  interner : Interner

namespace Lookahead

/-- A reader at the start of a source text. -/
def start (source : List Char) (interner : Interner) : Lookahead :=
  ⟨.start source, none, interner⟩

/-- The table after it has met the name of an item, if the item is a name. -/
def meetName (interner : Interner) : Item → Interner
  | .ok ⟨.identifier name, _⟩ => interner.meet name
  | _ => interner

/-- Scan one item, past anything that is pending. -/
def scan (reader : Lookahead) : Option Item × Lookahead :=
  match reader.cursor.scan with
  | none => (none, reader)
  | some (item, cursor) =>
      (some item, { reader with cursor, interner := meetName reader.interner item })

/-- Look at the next item: the pending one, or else one that is scanned and becomes pending. -/
def peek (reader : Lookahead) : Option Item × Lookahead :=
  match reader.pending with
  | some item => (item, reader)
  | none =>
      let (item, scanned) := reader.scan
      (item, { scanned with pending := some item })

/-- Take the next item: the pending one, or else one that is scanned. -/
def next (reader : Lookahead) : Option Item × Lookahead :=
  match reader.pending with
  | some item => (item, { reader with pending := none })
  | none => reader.scan

end Lookahead

/-- A table after it has met the names among some items. -/
def Interner.meetAll (interner : Interner) (items : List Item) : Interner :=
  items.foldl Lookahead.meetName interner

end StackLang
