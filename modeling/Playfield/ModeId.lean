/-!
# Mode identities

Every mode instance has an identity of its own, so that two modes of the same name and priority
stay apart. Identities are issued in order by an `IdBook`, which remembers what each one was
issued for and shows it as that tag and a running number per tag. An identity issued for nothing
is shown as a question mark.
-/
namespace Playfield

/-- The identity of a mode instance: its place in the book that issued it. -/
structure ModeId where
  index : Nat
  deriving DecidableEq, Repr, Inhabited

/-- The identities issued so far. -/
structure IdBook where
  /-- For each identity, what it was issued for and its running number among those of that tag. -/
  issued : List (Option (String × Nat)) := []
  deriving DecidableEq, Repr, Inhabited

namespace IdBook

/-- How many identities were issued for a tag. -/
def countTag (book : IdBook) (tag : String) : Nat :=
  book.issued.countP fun entry => entry.any fun e => e.1 = tag

/-- Issue a new identity. -/
def issue (book : IdBook) (tag : Option String) : ModeId × IdBook :=
  (⟨book.issued.length⟩, ⟨book.issued ++ [tag.map fun t => (t, book.countTag t + 1)]⟩)

/-- How an entry of the book is shown. -/
def entryText : Option (String × Nat) → String
  | some (tag, n) => tag ++ "#" ++ toString n
  | none => "?"

/-- How an identity is shown. -/
def label (book : IdBook) (id : ModeId) : String := entryText (book.issued[id.index]?.join)

/-- The identity issued for some tag that is shown as the given label. -/
def find? (book : IdBook) (label : String) : Option ModeId :=
  (book.issued.findIdx? fun entry => entry.isSome && entryText entry = label).map ModeId.mk

end IdBook

end Playfield
