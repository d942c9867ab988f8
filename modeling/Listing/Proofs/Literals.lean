import Mathlib
import Listing.Proofs.Tokens

/-!
# Literals of statements

A literal is a text between apostrophes, a bare word such as a number, or a list of literals in
parentheses with commas between them.  A reader takes the parts of a statement one after the other
and keeps the lists that are still open on a stack.

* `Literal.read` reads a text as one literal, and `Literal.tokens` are the parts of a literal;
* `Literal.build_tokens_append` is a run of the reader over the parts of a literal, and
  `Literal.tokens_next` what one step of it has taken;
* `Literal.ofTokens?_eq_some_iff` concludes that parts are read as a literal exactly if they are its
  own, so that where a literal and the items of a list start and end is never in doubt.
-/

namespace Listing

open Sql (Token)

/-- A literal of a statement. -/
inductive Literal where
  /-- A text between apostrophes. -/
  | quoted (s : String)
  /-- A number, a truth value or null. -/
  | bare (w : String)
  | list (items : List Literal)

namespace Literal

mutual

/-- The parts of a literal. -/
def tokens : Literal → List Token
  | quoted s => [.quoted s]
  | bare w => [.word w]
  | list items => .mark '(' :: itemTokens items

/-- The parts of a list behind the opening parenthesis. -/
def itemTokens : List Literal → List Token
  | [] => [.mark ')']
  | l :: ls => tokens l ++ furtherTokens ls

/-- The parts of a list behind one of its items. -/
def furtherTokens : List Literal → List Token
  | [] => [.mark ')']
  | l :: ls => .mark ',' :: (tokens l ++ furtherTokens ls)

end

/-- What has been read of a literal. -/
structure Assembly where
  /-- The items of the lists that are open, the innermost list first and of each the last item. -/
  pending : List (List Literal)
  /-- The literal that has just been read. -/
  last : Option Literal

/-- Read one part more. -/
def Assembly.next : Assembly → Token → Option Assembly
  | ⟨pending, none⟩, .quoted s => some ⟨pending, some (quoted s)⟩
  | ⟨pending, none⟩, .word w => some ⟨pending, some (bare w)⟩
  | ⟨pending, none⟩, .mark '(' => some ⟨[] :: pending, none⟩
  | ⟨[] :: pending, none⟩, .mark ')' => some ⟨pending, some (list [])⟩
  | ⟨items :: pending, some l⟩, .mark ',' => some ⟨(l :: items) :: pending, none⟩
  | ⟨items :: pending, some l⟩, .mark ')' => some ⟨pending, some (list (l :: items).reverse)⟩
  | _, _ => none

/-- The literal that has been read, if no list is open. -/
def Assembly.done : Assembly → Option Literal
  | ⟨[], last⟩ => last
  | ⟨_ :: _, _⟩ => none

/-- Read the parts that are left. -/
def build : Assembly → List Token → Option Literal
  | a, [] => a.done
  | a, t :: ts => (a.next t).bind (build · ts)

/-- The literal with the given parts. -/
def ofTokens? (ts : List Token) : Option Literal := build ⟨[], none⟩ ts

/-- Read a text as one literal, by the rules for texts between apostrophes. -/
def read (s : String) : Option Literal := (Sql.tokens '\'' .between s.toList).bind ofTokens?

/-! ## The parts of a literal are read -/

mutual

/-- The parts of a literal are put together before what follows is read, by induction on the
literal. -/
theorem build_tokens_append (pending : List (List Literal)) (rest : List Token) :
    ∀ l : Literal, build ⟨pending, none⟩ (l.tokens ++ rest) = build ⟨pending, some l⟩ rest
  | quoted s => rfl
  | bare w => rfl
  | list [] => rfl
  | list (l :: ls) => by
    rw [tokens, itemTokens, List.cons_append, List.append_assoc]
    change build ⟨[] :: pending, none⟩ (l.tokens ++ (furtherTokens ls ++ rest)) = _
    rw [build_tokens_append _ _ l, build_furtherTokens_append pending [] l rest ls]
    rfl

/-- The items of the innermost list are taken up to the parenthesis that closes it. -/
theorem build_furtherTokens_append (pending : List (List Literal)) (items : List Literal)
    (l : Literal) (rest : List Token) :
    ∀ ls : List Literal, build ⟨items :: pending, some l⟩ (furtherTokens ls ++ rest) =
      build ⟨pending, some (list (items.reverse ++ l :: ls))⟩ rest
  | [] => by
    rw [← List.reverse_cons]
    rfl
  | l' :: ls => by
    rw [furtherTokens, List.cons_append, List.append_assoc]
    change build ⟨(l :: items) :: pending, none⟩ (l'.tokens ++ (furtherTokens ls ++ rest)) = _
    rw [build_tokens_append _ _ l', build_furtherTokens_append pending (l :: items) l' rest ls,
      List.reverse_cons, List.append_assoc]
    rfl

end

/-! ## Nothing else is read -/

/-- The parts of items that have a comma behind each of them. -/
def listed (items : List Literal) : List Token := items.flatMap (·.tokens ++ [.mark ','])

theorem itemTokens_concat (items : List Literal) (l : Literal) :
    itemTokens (items ++ [l]) = listed items ++ (l.tokens ++ [.mark ')']) := by
  have further : ∀ items : List Literal, furtherTokens (items ++ [l]) =
      .mark ',' :: (listed items ++ (l.tokens ++ [.mark ')'])) := by
    intro items
    induction items with
    | nil => rfl
    | cons first items ih =>
      rw [List.cons_append, furtherTokens, ih]
      simp [listed]
  cases items with
  | nil => rfl
  | cons first items =>
    rw [List.cons_append, itemTokens, further]
    simp [listed]

/-- The parts that have been read. -/
def Assembly.tokens (a : Assembly) : List Token :=
  a.pending.reverse.flatMap (fun items => .mark '(' :: listed items.reverse) ++
    (a.last.map Literal.tokens).getD []

/-- A step takes the part that it is given. -/
theorem tokens_next {a a' : Assembly} {t : Token} (ok : a.next t = some a') :
    a'.tokens = a.tokens ++ [t] := by
  unfold Assembly.next at ok
  split at ok
  case h_5 items pending l =>
    obtain rfl := Option.some.inj ok
    simp [Assembly.tokens, listed]
  case h_6 items pending l =>
    obtain rfl := Option.some.inj ok
    simp [Assembly.tokens, Literal.tokens, itemTokens_concat]
  case h_7 => cases ok
  all_goals
    obtain rfl := Option.some.inj ok
    simp [Assembly.tokens, Literal.tokens, itemTokens, listed]

/-- What was read and what is left are the parts of the literal that comes out, so that no other
text is read as it. -/
theorem tokens_of_build {a : Assembly} {ts : List Token} {l : Literal}
    (ok : build a ts = some l) : a.tokens ++ ts = l.tokens := by
  induction ts generalizing a with
  | nil =>
    obtain ⟨pending, last⟩ := a
    cases pending with
    | nil =>
      obtain rfl : last = some l := ok
      exact List.append_nil _
    | cons items pending => cases ok
  | cons t ts ih =>
    obtain ⟨a', step, later⟩ := Option.bind_eq_some_iff.1 ok
    rw [← ih later, tokens_next step, List.append_assoc]
    rfl

/-- Parts are read as a literal exactly if they are the parts of that literal. -/
theorem ofTokens?_eq_some_iff {ts : List Token} {l : Literal} :
    ofTokens? ts = some l ↔ ts = l.tokens := by
  constructor
  · exact tokens_of_build
  · rintro rfl
    have run := build_tokens_append [] [] l
    rwa [List.append_nil] at run

end Literal

end Listing
