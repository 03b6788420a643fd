import Mathlib.Data.List.Forall2
import Mathlib.Data.String.Basic
import Rulebook.Proofs.Escape

/-!
# JSON trees and their texts

A `Json.Tree` is a JSON value whose texts are made of any code points, halves of surrogate pairs among
them, and `Json.Tree.json` is its JSON text.  Two trees have one text exactly when they are the same once
every code point is replaced by its UTF-16 units (`Json.Tree.json_eq_iff`).

That trees with different units have different texts is shown for texts with anything behind them
(`Readable`), provided that it does not go on with a number: for what stands in brackets this follows
from the same of its parts (`readable_bracketed`).
-/

set_option autoImplicit false

namespace Rulebook

/-! ## What brackets enclose -/

/-- Texts in brackets. -/
def bracketed (opening closing : String) (ps : List String) : String :=
  opening ++ joinWith ", " ps ++ closing

section Bracketed

variable {β : Type} {f : β → String} {R : β → β → Prop} {xs ys : List β} {r r' : List Char}

/-- Characters that do not go on with a number. -/
def EndsNumber (r : List Char) : Prop := ∀ c ∈ r.head?, c.isDigit = false

/-- Two things are related when their texts are the same with something behind them, and then what is
behind them is the same too. -/
def Readable (f : β → String) (R : β → β → Prop) (x y : β) : Prop :=
  ∀ r r' : List Char, EndsNumber r → EndsNumber r' →
    (f x).toList ++ r = (f y).toList ++ r' → R x y ∧ r = r'

/-- A text that begins with another character than a given one. -/
def StartsUnlike (stop : Char) (p : String) : Prop := ∃ c r, p.toList = c :: r ∧ c ≠ stop

/-- What stands behind the first of several texts in brackets. -/
def behind (stop : Char) (r : List Char) : List String → List Char
  | [] => stop :: r
  | p :: ps => ',' :: ' ' :: (p.toList ++ behind stop r ps)

theorem toList_joinWith_cons (stop : Char) (p : String) (ps : List String) (r : List Char) :
    (joinWith ", " (p :: ps)).toList ++ stop :: r = p.toList ++ behind stop r ps := by
  induction ps generalizing p with
  | nil => simp [joinWith, behind]
  | cons q ps ih =>
    have hq := ih q
    rw [joinWith, String.toList_intercalate] at hq ⊢
    rw [List.map_cons, List.map_cons, List.intercalate_cons_cons, behind, ← hq]
    simp

variable {stop : Char}

theorem endsNumber_behind (hstop : stop.isDigit = false) (r : List Char) (ps : List String) :
    EndsNumber (behind stop r ps) := by
  intro c hc
  cases ps with
  | nil => exact Option.some.inj hc ▸ hstop
  | cons p ps => exact Option.some.inj hc ▸ rfl

theorem readable_behind (hstop : stop.isDigit = false) (hcomma : stop ≠ ',')
    (hread : ∀ x ∈ xs, ∀ y ∈ ys, Readable f R x y)
    (h : behind stop r (xs.map f) = behind stop r' (ys.map f)) :
    List.Forall₂ R xs ys ∧ r = r' := by
  induction xs generalizing ys with
  | nil =>
    cases ys with
    | nil => exact ⟨.nil, (List.cons.inj h).2⟩
    | cons => exact (hcomma (List.cons.inj h).1).elim
  | cons x xs ih =>
    cases ys with
    | nil => exact (hcomma (List.cons.inj h).1.symm).elim
    | cons y ys =>
      simp only [List.map_cons, behind, List.cons.injEq, true_and] at h
      obtain ⟨hxy, h⟩ := hread x List.mem_cons_self y List.mem_cons_self _ _
        (endsNumber_behind hstop r _) (endsNumber_behind hstop r' _) h
      obtain ⟨hall, hr⟩ := ih (fun x hx y hy ↦
        hread x (List.mem_cons_of_mem _ hx) y (List.mem_cons_of_mem _ hy)) h
      exact ⟨.cons hxy hall, hr⟩

/-- **Things in brackets can be read back when each of them can.** -/
theorem readable_bracketed {opening closing : String} (hclosing : closing.toList = [stop])
    (hstop : stop.isDigit = false) (hcomma : stop ≠ ',')
    (hread : ∀ x ∈ xs, ∀ y ∈ ys, Readable f R x y) (hx : ∀ x ∈ xs, StartsUnlike stop (f x))
    (hy : ∀ y ∈ ys, StartsUnlike stop (f y))
    (h : (bracketed opening closing (xs.map f)).toList ++ r =
      (bracketed opening closing (ys.map f)).toList ++ r') : List.Forall₂ R xs ys ∧ r = r' := by
  simp only [bracketed, String.toList_append, hclosing, List.append_assoc, List.cons_append,
    List.nil_append, List.append_cancel_left_eq] at h
  cases xs with
  | nil =>
    cases ys with
    | nil => exact ⟨.nil, by simpa [joinWith] using h⟩
    | cons y ys =>
      obtain ⟨c, t, ht, hne⟩ := hy y List.mem_cons_self
      rw [List.map_cons, toList_joinWith_cons, ht] at h
      exact (hne (List.cons.inj h).1.symm).elim
  | cons x xs =>
    cases ys with
    | nil =>
      obtain ⟨c, t, ht, hne⟩ := hx x List.mem_cons_self
      rw [List.map_cons, toList_joinWith_cons, ht] at h
      exact (hne (List.cons.inj h).1).elim
    | cons y ys =>
      rw [List.map_cons, List.map_cons, toList_joinWith_cons, toList_joinWith_cons] at h
      obtain ⟨hxy, h⟩ := hread x List.mem_cons_self y List.mem_cons_self _ _
        (endsNumber_behind hstop r _) (endsNumber_behind hstop r' _) h
      obtain ⟨hall, hr⟩ := readable_behind hstop hcomma (fun x hx y hy ↦
        hread x (List.mem_cons_of_mem _ hx) y (List.mem_cons_of_mem _ hy)) h
      exact ⟨.cons hxy hall, hr⟩

end Bracketed

/-! ## Integers -/

section Integers

variable {r r' : List Char}

theorem takeWhile_toDigits_append (n : Nat) (hr : EndsNumber r) :
    (Nat.toDigits 10 n ++ r).takeWhile Char.isDigit = Nat.toDigits 10 n := by
  have hnil : r.takeWhile Char.isDigit = [] := by
    cases r with
    | nil => rfl
    | cons c r => rw [List.takeWhile_cons, hr c rfl, if_neg Bool.false_ne_true]
  rw [List.takeWhile_append_of_pos fun c hc ↦
    Nat.isDigit_of_mem_toDigits (by decide) (by decide) hc, hnil, List.append_nil]

theorem toDigits_append_inj {m n : Nat} (hr : EndsNumber r) (hr' : EndsNumber r')
    (h : Nat.toDigits 10 m ++ r = Nat.toDigits 10 n ++ r') : m = n ∧ r = r' := by
  have hdigits : Nat.toDigits 10 m = Nat.toDigits 10 n := by
    rw [← takeWhile_toDigits_append m hr, h, takeWhile_toDigits_append n hr']
  have hmn := congrArg (Nat.ofDigitChars 10 · 0) hdigits
  rw [Nat.ofDigitChars_toDigits (by decide) (by decide),
    Nat.ofDigitChars_toDigits (by decide) (by decide)] at hmn
  exact ⟨hmn, List.append_cancel_left (hdigits ▸ h)⟩

theorem exists_digit (n : Nat) : ∃ c ds, Nat.toDigits 10 n = c :: ds ∧ c.isDigit = true := by
  obtain ⟨c, ds, h⟩ := List.exists_cons_of_ne_nil (Nat.toDigits_ne_nil (n := n) (b := 10))
  have hc : c ∈ Nat.toDigits 10 n := by simp [h]
  exact ⟨c, ds, h, Nat.isDigit_of_mem_toDigits (by decide) (by decide) hc⟩

/-- The text of an integer is a sign, for a negative one, and digits. -/
theorem toList_integerText (n : Int) : (integerText n).toList =
    if n < 0 then '-' :: Nat.toDigits 10 n.natAbs else Nat.toDigits 10 n.natAbs := by
  rw [integerText, String.toList_ofList]

theorem readable_integerText (m n : Int) : Readable integerText (· = ·) m n := by
  intro r r' hr hr' h
  rw [toList_integerText, toList_integerText] at h
  have hminus : ∀ (k : Nat) (l l' : List Char), '-' :: l ≠ Nat.toDigits 10 k ++ l' := by
    intro k l l' heq
    obtain ⟨c, ds, hds, hc⟩ := exists_digit k
    rw [hds] at heq
    obtain ⟨rfl, -⟩ := List.cons.inj heq
    exact absurd hc (by decide)
  split_ifs at h with hm hn hn
  · obtain ⟨habs, hrest⟩ := toDigits_append_inj hr hr' (List.cons.inj h).2
    exact ⟨by omega, hrest⟩
  · exact (hminus _ _ _ h).elim
  · exact (hminus _ _ _ h.symm).elim
  · obtain ⟨habs, hrest⟩ := toDigits_append_inj hr hr' h
    exact ⟨by omega, hrest⟩

end Integers

/-! ## Trees -/

namespace Json

/-- A JSON value.  An object has its entries in the order in which they are written. -/
inductive Tree where
  | null
  | bool (b : Bool)
  | int (n : Int)
  | text (ps : List CodePoint)
  | array (ts : List Tree)
  | object (es : List (List CodePoint × Tree))

namespace Tree

/-- What holds of a tree as soon as it holds of its parts holds of every tree. -/
@[induction_eliminator]
theorem induct {motive : Tree → Prop} (null : motive null) (bool : ∀ b, motive (bool b))
    (int : ∀ n, motive (int n)) (text : ∀ ps, motive (text ps))
    (array : ∀ ts, (∀ t ∈ ts, motive t) → motive (array ts))
    (object : ∀ es, (∀ e ∈ es, motive e.2) → motive (object es)) (t : Tree) : motive t := by
  refine Tree.rec (motive_2 := fun ts ↦ ∀ t ∈ ts, motive t)
    (motive_3 := fun es ↦ ∀ e ∈ es, motive e.2) (motive_4 := fun e ↦ motive e.2)
    null bool int text (fun _ ↦ array _) (fun _ ↦ object _) ?_ ?_ ?_ ?_ ?_ t
  · exact List.forall_mem_nil _
  · exact fun t ts ht hts ↦ List.forall_mem_cons.mpr ⟨ht, hts⟩
  · exact List.forall_mem_nil _
  · exact fun e es he hes ↦ List.forall_mem_cons.mpr ⟨he, hes⟩
  · exact fun _ _ ht ↦ ht

mutual

/-- The JSON text of a tree. -/
def json : Tree → String
  | null => "null"
  | bool b => if b then "true" else "false"
  | int n => integerText n
  | text ps => quotedPoints ps
  | array ts => bracketed "[" "]" (jsonItems ts)
  | object es => bracketed openBrace closeBrace (jsonEntries es)

/-- The JSON texts of several trees. -/
def jsonItems : List Tree → List String
  | [] => []
  | t :: r => json t :: jsonItems r

/-- The JSON texts of the entries of an object. -/
def jsonEntries : List (List CodePoint × Tree) → List String
  | [] => []
  | (key, t) :: r => (quotedPoints key ++ ": " ++ json t) :: jsonEntries r

end

/-- The JSON text of an entry. -/
def jsonEntry (e : List CodePoint × Tree) : String := quotedPoints e.1 ++ ": " ++ e.2.json

mutual

/-- A tree whose code points are replaced by their UTF-16 units. -/
def split : Tree → Tree
  | text ps => text (Json.split ps)
  | array ts => array (splitItems ts)
  | object es => object (splitEntries es)
  | t => t

/-- Several trees whose code points are replaced by their units. -/
def splitItems : List Tree → List Tree
  | [] => []
  | t :: r => split t :: splitItems r

/-- Entries whose code points are replaced by their units. -/
def splitEntries : List (List CodePoint × Tree) → List (List CodePoint × Tree)
  | [] => []
  | (key, t) :: r => (Json.split key, split t) :: splitEntries r

end

/-- An entry whose code points are replaced by their units. -/
def splitEntry (e : List CodePoint × Tree) : List CodePoint × Tree := (Json.split e.1, e.2.split)

variable {t u : Tree} {ts us : List Tree} {es fs : List (List CodePoint × Tree)}

theorem jsonItems_eq (ts : List Tree) : jsonItems ts = ts.map json := by
  induction ts with
  | nil => rfl
  | cons t r ih => rw [jsonItems, ih, List.map_cons]

theorem jsonEntries_eq (es : List (List CodePoint × Tree)) : jsonEntries es = es.map jsonEntry := by
  induction es with
  | nil => rfl
  | cons e r ih =>
    rw [jsonEntries, ih]
    rfl

theorem splitItems_eq (ts : List Tree) : splitItems ts = ts.map split := by
  induction ts with
  | nil => rfl
  | cons t r ih => rw [splitItems, ih, List.map_cons]

theorem splitEntries_eq (es : List (List CodePoint × Tree)) :
    splitEntries es = es.map splitEntry := by
  induction es with
  | nil => rfl
  | cons e r ih =>
    rw [splitEntries, ih]
    rfl

theorem json_array (ts : List Tree) : (array ts).json = bracketed "[" "]" (ts.map json) := by
  rw [json, jsonItems_eq]

theorem json_object (es : List (List CodePoint × Tree)) :
    (object es).json = bracketed openBrace closeBrace (es.map jsonEntry) := by
  rw [json, jsonEntries_eq]

theorem split_array (ts : List Tree) : (array ts).split = array (ts.map split) := by
  rw [split, splitItems_eq]

theorem split_object (es : List (List CodePoint × Tree)) :
    (object es).split = object (es.map splitEntry) := by
  rw [split, splitEntries_eq]

/-- **A tree is written as the tree of its units is.** -/
theorem json_split (t : Tree) : t.split.json = t.json := by
  induction t with
  | null | bool | int => rfl
  | text ps => exact quotedPoints_split ps
  | array ts ih =>
    rw [split_array, json_array, json_array, List.map_map]
    exact congrArg _ (List.map_congr_left ih)
  | object es ih =>
    rw [split_object, json_object, json_object, List.map_map]
    refine congrArg _ (List.map_congr_left fun e he ↦ ?_)
    rw [Function.comp_apply, jsonEntry, jsonEntry, splitEntry, quotedPoints_split, ih e he]

/-! ## Different units have different texts -/

/-- What the first character of a JSON text tells. -/
inductive Kind where
  | null | truth | number | text | array | object

/-- The kind of value that a text with a first character stands for. -/
def Kind.ofLead (c : Char) : Option Kind :=
  if c = 'n' then some null
  else if c = 't' ∨ c = 'f' then some truth
  else if c = Text.doubleQuote then some text
  else if c = '[' then some array
  else if c = '\x7b' then some object
  else if c = '-' ∨ c.isDigit then some number
  else none

/-- The kind of a tree. -/
def kind : Tree → Kind
  | null => .null
  | bool _ => .truth
  | int _ => .number
  | text _ => .text
  | array _ => .array
  | object _ => .object

theorem ofLead_of_isDigit {c : Char} (h : c.isDigit = true) : Kind.ofLead c = some .number := by
  have hne : ∀ d : Char, d.isDigit = false → c ≠ d := fun d hd hcd ↦ by
    rw [hcd, hd] at h
    cases h
  rw [Kind.ofLead, if_neg (hne _ rfl), if_neg (not_or_intro (hne _ rfl) (hne _ rfl)),
    if_neg (hne _ rfl), if_neg (hne _ rfl), if_neg (hne _ rfl), if_pos (.inr h)]

theorem exists_lead_bracketed {opening : String} {c : Char} (hc : opening.toList = [c])
    (closing : String) (ps : List String) : ∃ r, (bracketed opening closing ps).toList = c :: r :=
  ⟨_, by rw [bracketed, String.toList_append, String.toList_append, hc]; rfl⟩

/-- The first character of a JSON text tells the kind of the tree. -/
theorem exists_lead (t : Tree) : ∃ c r, t.json.toList = c :: r ∧ Kind.ofLead c = some t.kind := by
  cases t with
  | null => exact ⟨_, _, rfl, rfl⟩
  | bool b => cases b <;> exact ⟨_, _, rfl, rfl⟩
  | int n =>
    obtain ⟨c, ds, hds, hc⟩ := exists_digit n.natAbs
    rw [json, toList_integerText]
    split
    · exact ⟨_, _, rfl, rfl⟩
    · exact ⟨c, ds, hds, ofLead_of_isDigit hc⟩
  | text ps => exact ⟨_, _, String.toList_ofList, rfl⟩
  | array ts =>
    obtain ⟨r, hr⟩ := exists_lead_bracketed (rfl : "[".toList = _) "]" (jsonItems ts)
    exact ⟨_, r, hr, rfl⟩
  | object es =>
    obtain ⟨r, hr⟩ := exists_lead_bracketed (rfl : openBrace.toList = _) closeBrace (jsonEntries es)
    exact ⟨_, r, hr, rfl⟩

theorem kind_eq {r r' : List Char} (h : t.json.toList ++ r = u.json.toList ++ r') :
    t.kind = u.kind := by
  obtain ⟨c, x, hx, hc⟩ := exists_lead t
  obtain ⟨d, y, hy, hd⟩ := exists_lead u
  rw [hx, hy] at h
  rw [(List.cons.inj h).1, hd] at hc
  exact (Option.some.inj hc).symm

/-- No JSON text begins with a character that no kind of value begins with. -/
theorem startsUnlike_json {stop : Char} (hstop : Kind.ofLead stop = none) (t : Tree) :
    StartsUnlike stop t.json := by
  obtain ⟨c, r, hr, hc⟩ := exists_lead t
  refine ⟨c, r, hr, ?_⟩
  rintro rfl
  rw [hstop] at hc
  cases hc

theorem startsUnlike_jsonEntry {stop : Char} (hstop : stop ≠ Text.doubleQuote)
    (e : List CodePoint × Tree) : StartsUnlike stop (jsonEntry e) := by
  refine ⟨Text.doubleQuote, e.1.flatMap escape ++ Text.doubleQuote :: (": " ++ e.2.json).toList, ?_,
    hstop.symm⟩
  simp [jsonEntry, quotedPoints]

/-- Entries can be read back when their values can. -/
theorem readable_jsonEntry {e f : List CodePoint × Tree}
    (h : Readable json (fun t u ↦ t.split = u.split) e.2 f.2) :
    Readable jsonEntry (fun e f ↦ splitEntry e = splitEntry f) e f := by
  intro r r' hr hr' heq
  simp only [jsonEntry, String.toList_append, List.append_assoc] at heq
  obtain ⟨hkey, hbehind⟩ := quotedPoints_append_inj heq
  obtain ⟨hvalue, hrest⟩ := h r r' hr hr' (List.append_cancel_left hbehind)
  exact ⟨Prod.ext hkey hvalue, hrest⟩

theorem map_eq_map_of_forall₂ {β γ : Type} {f : β → γ} {xs ys : List β}
    (h : List.Forall₂ (fun x y ↦ f x = f y) xs ys) : xs.map f = ys.map f := by
  induction h with
  | nil => rfl
  | cons hxy _ ih => rw [List.map_cons, List.map_cons, hxy, ih]

/-- **The text of a tree tells its units,** with anything behind it. -/
theorem readable_json (t u : Tree) : Readable json (fun t u ↦ t.split = u.split) t u := by
  induction t generalizing u with
  | null =>
    intro r r' _ _ h
    have hkind := kind_eq h
    cases u with
    | null => exact ⟨rfl, List.append_cancel_left h⟩
    | _ => cases hkind
  | bool a =>
    intro r r' _ _ h
    have hkind := kind_eq h
    cases u with
    | bool b => cases a <;> cases b <;> simp_all [json]
    | _ => cases hkind
  | int m =>
    intro r r' hr hr' h
    have hkind := kind_eq h
    cases u with
    | int n =>
      obtain ⟨rfl, hrest⟩ := readable_integerText m n r r' hr hr' h
      exact ⟨rfl, hrest⟩
    | _ => cases hkind
  | text ps =>
    intro r r' _ _ h
    have hkind := kind_eq h
    cases u with
    | text qs =>
      obtain ⟨hsplit, hrest⟩ := quotedPoints_append_inj h
      exact ⟨congrArg text hsplit, hrest⟩
    | _ => cases hkind
  | array ts ih =>
    intro r r' _ _ h
    have hkind := kind_eq h
    cases u with
    | array us =>
      rw [json_array, json_array] at h
      obtain ⟨hall, hrest⟩ := readable_bracketed rfl rfl (by decide) (fun t ht u _ ↦ ih t ht u)
        (fun t _ ↦ startsUnlike_json rfl t) (fun u _ ↦ startsUnlike_json rfl u) h
      refine ⟨?_, hrest⟩
      show (array ts).split = (array us).split
      rw [split_array, split_array, map_eq_map_of_forall₂ hall]
    | _ => cases hkind
  | object es ih =>
    intro r r' _ _ h
    have hkind := kind_eq h
    cases u with
    | object fs =>
      rw [json_object, json_object] at h
      obtain ⟨hall, hrest⟩ := readable_bracketed rfl rfl (by decide)
        (fun e he f _ ↦ readable_jsonEntry (ih e he f.2))
        (fun e _ ↦ startsUnlike_jsonEntry (by decide) e)
        (fun f _ ↦ startsUnlike_jsonEntry (by decide) f) h
      refine ⟨?_, hrest⟩
      show (object es).split = (object fs).split
      rw [split_object, split_object, map_eq_map_of_forall₂ hall]
    | _ => cases hkind

/-- **Two trees have one text exactly when they have the same units.** -/
theorem json_eq_iff (t u : Tree) : t.json = u.json ↔ t.split = u.split := by
  constructor
  · intro h
    exact (readable_json t u [] [] nofun nofun (by rw [h])).1
  · intro h
    rw [← json_split t, h, json_split]

end Tree
end Json
end Rulebook
