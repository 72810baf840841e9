import DocStubs.Symbol

/-!
# Members of a module

Which symbols of a module its page lists. A symbol whose declaring module is known is a member if
it was made to be called and was declared in this very module, so names that are only passed on
are left out. Of a symbol without a declaring module, as compiled modules have them, less is
known, and it is a member unless its name is reserved, it is a module or it carries no
documentation.

## Main definitions

* `MemberOrder` — the order of a member list
* `Symbol.isMember` — whether a symbol is a member
* `memberNames` — the member list of a module
-/

namespace DocStubs

/-- The order of the members on a page. -/
inductive MemberOrder where
  | alphabetical
  /-- In the order of declaration. -/
  | declaration
  deriving DecidableEq, Repr, Inhabited

namespace MemberOrder

/-- The word for an order. -/
def word : MemberOrder → String
  | alphabetical => "alphabetical"
  | declaration => "declaration"

/-- The order that a word or its short form stands for. -/
def ofText? (text : String) : Option MemberOrder :=
  if text = "alphabetical" || text = "alpha" then some alphabetical
  else if text = "declaration" || text = "source" then some declaration
  else none

/-- The order with a given word. -/
def ofWord? (text : String) : Option MemberOrder :=
  [alphabetical, declaration].find? (·.word = text)

end MemberOrder

/-- Whether a symbol belongs to the member list of a module. -/
def Symbol.isMember (symbol : Symbol) (home : String) : Bool :=
  match symbol.declaredIn with
  | some declared => symbol.kind.isCallable && declared = home
  | none => !symbol.isDunder && symbol.kind ≠ .module && symbol.documented

/-- The items of a list, each at its first place only. -/
def firsts {α : Type} [BEq α] : List α → List α
  | [] => []
  | item :: rest => item :: (firsts rest).filter fun other => !(other == item)

/-- The member list of a module. A name listed twice keeps its first place. -/
def memberNames (home : String) (order : MemberOrder) (symbols : List Symbol) : List String :=
  let names := firsts ((symbols.filter (·.isMember home)).map (·.name))
  match order with
  | .alphabetical => names.mergeSort fun a b => a ≤ b
  | .declaration => names

end DocStubs
