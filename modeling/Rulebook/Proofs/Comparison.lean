import Rulebook.Proofs.Placeholder
import Rulebook.Proofs.Plain
import Rulebook.Proofs.WrittenNumeral
import Rulebook.Rule.Standard

/-!
# The rules that compare numbers

Six rules compare a number with a parameter (`Comparison`), and one asks whether it lies between two.
All numbers other than the not-a-numbers stand on one line, so that the answers of the six depend only
on which of the two comes first (`Comparison.exists_ordering`).  From this everything follows that one
of them says about the others (`RuleContext.ComparisonsAgree`): of less, equal and greater exactly one
passes, the remaining three are put together from these, and being between two numbers is being at
least the one and at most the other.

A rule looks up its message before it compares.  With the bundled catalogs, or without any, this can
always be done for a parameter that is a number (`RuleContext.canTell_of_isNumeric`).
-/

set_option autoImplicit false

namespace Rulebook

/-! ## Numbers on a line -/

namespace Extended

theorem lt_self (p : Extended) : p.lt p = false := by
  cases p with
  | value q => exact decide_eq_false (lt_irrefl q)
  | _ => rfl

/-- Of two different numbers one is less than the other, which is not less than it. -/
theorem lt_or_gt {p q : Extended} (h : p ≠ q) :
    p.lt q = true ∧ q.lt p = false ∨ p.lt q = false ∧ q.lt p = true := by
  cases p <;> cases q
  case value.value p q =>
    rcases lt_or_gt_of_ne (fun hpq ↦ h (congrArg value hpq)) with hlt | hgt
    · exact .inl ⟨decide_eq_true hlt, decide_eq_false hlt.not_gt⟩
    · exact .inr ⟨decide_eq_false hgt.not_gt, decide_eq_true hgt⟩
  all_goals first | exact absurd rfl h | exact .inl ⟨rfl, rfl⟩ | exact .inr ⟨rfl, rfl⟩

end Extended

/-- The ways in which a number is compared with a parameter. -/
inductive Comparison where
  | less | atMost | greater | atLeast | equal | different
deriving DecidableEq

namespace Comparison

/-- The rule that compares in this way. -/
def rule : Comparison → StandardRule
  | less => .numberLessThan
  | atMost => .numberLessThanOrEquals
  | greater => .numberGreaterThan
  | atLeast => .numberGreaterThanOrEquals
  | equal => .numberEquals
  | different => .numberIsDifferentFrom

/-- The last part of the key of the rule's message. -/
def word : Comparison → String
  | less => "numberLessThan"
  | atMost => "numberLessThanOrEquals"
  | greater => "numberGreaterThan"
  | atLeast => "numberGreaterThanOrEquals"
  | equal => "numberEquals"
  | different => "numberIsDifferentFrom"

/-- The key of the rule's message. -/
def key (c : Comparison) : String := "validator." ++ c.word

/-- Whether a double compares in this way with another. -/
def holds : Comparison → Double → Double → Bool
  | less => Double.lt
  | atMost => Double.le
  | greater => fun x y ↦ y.lt x
  | atLeast => fun x y ↦ y.le x
  | equal => Double.eq
  | different => fun x y ↦ !x.eq y

/-- Whether the comparison holds when two numbers stand in some order. -/
def admits : Comparison → Ordering → Bool
  | less => Ordering.isLT
  | atMost => Ordering.isLE
  | greater => Ordering.isGT
  | atLeast => Ordering.isGE
  | equal => Ordering.isEq
  | different => Ordering.isNe

theorem judge_rule [Platform] (c : Comparison) (ctx : RuleContext) :
    c.rule.judge ctx = ctx.compare c.holds c.key := by
  cases c <;> rfl

/-- Which comparisons hold of two doubles is a matter of their order. -/
theorem exists_ordering {x y : Double} (hx : x.isNaN = false) (hy : y.isNaN = false) :
    ∃ o : Ordering, ∀ c : Comparison, c.holds x y = c.admits o := by
  have hexists : ∀ {z : Double}, z.isNaN = false → ∃ p, z.toExtended? = some p := by
    intro z hz
    cases z with
    | nan => cases hz
    | infinity negative => cases negative <;> exact ⟨_, rfl⟩
    | finite => exact ⟨_, rfl⟩
  obtain ⟨p, hp⟩ := hexists hx
  obtain ⟨q, hq⟩ := hexists hy
  have hlt : x.lt y = p.lt q ∧ y.lt x = q.lt p := by simp [Double.lt, Double.compare?, hp, hq]
  have hle : x.le y = !q.lt p ∧ y.le x = !p.lt q := by
    simp [Double.le, Double.compare?, Extended.le, hp, hq]
  have heq : x.eq y = decide (p = q) := by simp [Double.eq, Double.compare?, hp, hq]
  have hcases : ∀ o : Ordering, p.lt q = o.isLT → q.lt p = o.isGT → decide (p = q) = o.isEq →
      ∀ c : Comparison, c.holds x y = c.admits o := by
    intro o hless hgreater hequal c
    cases c <;> simp only [holds, admits, hlt, hle, heq, hless, hgreater, hequal] <;>
      cases o <;> rfl
  by_cases hpq : p = q
  · subst hpq
    exact ⟨.eq, hcases .eq p.lt_self p.lt_self (decide_eq_true rfl)⟩
  · rcases Extended.lt_or_gt hpq with ⟨hless, hgreater⟩ | ⟨hless, hgreater⟩
    · exact ⟨.lt, hcases .lt hless hgreater (decide_eq_false hpq)⟩
    · exact ⟨.gt, hcases .gt hless hgreater (decide_eq_false hpq)⟩

/-- In every order exactly one of less, equal and greater holds. -/
theorem existsUnique_admits (o : Ordering) :
    ∃! c, c ∈ [Comparison.less, .equal, .greater] ∧ c.admits o = true := by
  have hunique : ∀ c d : Comparison, c ∈ [less, .equal, .greater] ∧ c.admits o = true →
      d ∈ [less, .equal, .greater] ∧ d.admits o = true → d = c := by
    cases o <;> intro c d <;> cases c <;> cases d <;> decide
  cases o
  · exact ⟨less, by decide, fun d ↦ hunique less d (by decide)⟩
  · exact ⟨equal, by decide, fun d ↦ hunique equal d (by decide)⟩
  · exact ⟨greater, by decide, fun d ↦ hunique greater d (by decide)⟩

end Comparison

/-! ## Values that are numbers -/

namespace Value

/-- Values that are numbers, or texts that write one. -/
def IsNumeric (v : Value) : Prop := ∃ x, v.toNumber = .ok (some x)

variable {v : Value} {x : Double}

theorem isNaN_of_toNumber (h : v.toNumber = .ok (some x)) : x.isNaN = false := by
  have hfilter : ∀ {o : Option Double}, (pure (o.filter (!·.isNaN)) : Except Failure _) =
      .ok (some x) → x.isNaN = false :=
    fun h ↦ by simpa using (Option.filter_eq_some_iff.mp (Except.ok.inj h)).2
  rw [toNumber.eq_def] at h
  split at h
  · split at h
    · exact hfilter h
    · cases h
  · exact hfilter h
  · split at h
    · cases h
    · exact hfilter h
  · exact hfilter h
  · exact hfilter h

/-! ### Infinities and not-a-numbers -/

/-- An infinity: a float, a decimal, or a text with its name in any case, a sign and blanks. -/
inductive IsInfinity : Value → Prop
  | float (negative : Bool) : IsInfinity (.float (.infinity negative))
  | decimal (negative : Bool) : IsInfinity (.decimal (.infinity negative))
  | text {s : String} (sign : Numeral.Sign) {name : List Char}
      (hs : Text.trimChars s.toList = sign.chars ++ name)
      (hname : name.map Char.toLower = "inf".toList ∨ name.map Char.toLower = "infinity".toList) :
      IsInfinity (.text s)

/-- A not-a-number: a float, a decimal, quiet or signalling, or a text with its name. -/
inductive IsNotANumber : Value → Prop
  | float : IsNotANumber (.float .nan)
  | decimal (negative signalling : Bool) (payload : Nat) :
      IsNotANumber (.decimal (.nan negative signalling payload))
  | text {s : String} (sign : Numeral.Sign) {name : List Char}
      (hs : Text.trimChars s.toList = sign.chars ++ name)
      (hname : name.map Char.toLower = "nan".toList) : IsNotANumber (.text s)

/-- **Infinities are numbers here.** -/
theorem IsInfinity.isNumeric (h : v.IsInfinity) : v.IsNumeric := by
  cases h with
  | float negative => exact ⟨.infinity negative, rfl⟩
  | decimal negative => exact ⟨.infinity negative, rfl⟩
  | text sign hs hname =>
    refine ⟨.infinity sign.negative, ?_⟩
    rcases hname with hname | hname
    · rw [toNumber, Double.ofText?_name sign (by decide) hs hname]
      rfl
    · rw [toNumber, Double.ofText?_name sign (by decide) hs hname]
      rfl

/-- **Not-a-numbers are none.** -/
theorem IsNotANumber.not_isNumeric (h : v.IsNotANumber) : ¬ v.IsNumeric := by
  rintro ⟨x, hx⟩
  cases h with
  | float => cases hx
  | decimal negative signalling payload => cases signalling <;> cases hx
  | text sign hs hname =>
    rw [toNumber, Double.ofText?_name sign (by decide) hs hname] at hx
    cases hx

end Value

/-! ## What the rules answer -/

/-- Whether the rule that compares in some way passes with one parameter. -/
def Comparison.Passes [Platform] (c : Comparison) (ctx : RuleContext) (p : Value) : Prop :=
  c.rule.judge { ctx with params := [p] } = .ok .pass

theorem Verdict.ofBool_eq_pass_iff {condition : Bool} {message : String} :
    ofBool condition message = pass ↔ condition = true := by
  cases condition <;> simp [ofBool]

namespace RuleContext

variable {ctx : RuleContext} {l h : Value}

section

variable [Platform]

/-- A rule passes on a text with some parameters. -/
def PassesOn (ctx : RuleContext) (r : StandardRule) (s : String) (params : List Value) :
    Prop :=
  r.judge { ctx with value := .text s, params := params } = .ok .pass

/-- Whether the messages of all comparisons with a parameter can be made. -/
def CanTell (ctx : RuleContext) (p : Value) : Prop :=
  ∀ c : Comparison, Succeeds (({ ctx with params := [p] } : RuleContext).translate c.key [])

/-- **The messages of comparisons with a number can be made** from the bundled catalogs, and without a
translator. -/
theorem canTell_of_isNumeric {p : Value}
    (ht : ctx.translator = none ∨ ∃ cur fb, ctx.translator = some (.bundled cur fb))
    (hp : p.IsNumeric) : ctx.CanTell p := by
  intro c
  rcases ht with ht | ⟨cur, fb, ht⟩
  · rw [translate, ht]
    exact succeeds_ok _
  · obtain ⟨x, hx⟩ := hp
    have hshown : FailsOnly (fun _ ↦ False) (Template.parameterText (.list [p])) := by
      refine (failsOnly_mapM fun q hq ↦ ?_).bind fun _ _ ↦ failsOnly_ok _
      rw [List.mem_singleton.mp hq]
      exact (Value.succeeds_display_of_toNumber hx).failsOnly
    have hkey : Catalog.placeholders.lookup c.word = some ["ruleParams"] := by cases c <;> decide
    have ht : ({ ctx with params := [p] } : RuleContext).translator = some (.bundled cur fb) := ht
    exact (failsOnly_translate_bundled ht c.word hkey (fun _ ↦ hshown) Showable.nil).succeeds

theorem compare_passes_iff (ctx : RuleContext) (holds : Double → Double → Bool)
    (key : String) :
    ctx.compare holds key = .ok .pass ↔ Succeeds (ctx.translate key []) ∧
      ∃ x y, ctx.value.toNumber = .ok (some x) ∧ ctx.firstNumber = .ok (some y) ∧
        holds x y = true := by
  rw [compare]
  simp only [bind_eq_ok_iff]
  constructor
  · rintro ⟨message, hmessage, x, hx, h⟩
    cases x with
    | none => cases h
    | some x =>
      obtain ⟨y, hy, h⟩ := bind_eq_ok h
      cases y with
      | none => cases h
      | some y =>
        exact ⟨⟨message, hmessage⟩, x, y, hx, hy, Verdict.ofBool_eq_pass_iff.mp (Except.ok.inj h)⟩
  · rintro ⟨⟨message, hmessage⟩, x, y, hx, hy, h⟩
    refine ⟨message, hmessage, some x, hx, ?_⟩
    simp only [hy]
    exact congrArg Except.ok (Verdict.ofBool_eq_pass_iff.mpr h)

/-- A comparison of or with something that is no number fails with its message. -/
theorem compare_of_not_numeric (ctx : RuleContext) {a b : Option Double}
    (hv : ctx.value.toNumber = .ok a) (hp : ctx.firstNumber = .ok b) (h : a = none ∨ b = none)
    (holds : Double → Double → Bool) (key : String) :
    ctx.compare holds key = (ctx.translate key []).map .fail := by
  rw [compare, hv]
  cases ctx.translate key [] with
  | error f => rfl
  | ok message =>
    cases a with
    | none => rfl
    | some x =>
      obtain rfl : b = none := h.resolve_left nofun
      simp only [hp]
      rfl

theorem reject_ne_pass (ctx : RuleContext) (key : String) (params : List Entry) :
    ctx.reject key params ≠ .ok .pass := by
  intro h
  obtain ⟨message, -, h⟩ := bind_eq_ok h
  cases h

theorem require_eq_pass_iff {condition : Bool} {key : String} :
    ctx.require condition key = .ok .pass ↔ condition = true := by
  cases condition
  · exact iff_of_false (reject_ne_pass ctx key []) nofun
  · exact iff_of_true rfl rfl

theorem numberBetween_passes_iff (ctx : RuleContext) {x a b : Option Double}
    (hv : ctx.value.toNumber = .ok x) (hl : l.toNumber = .ok a) (hh : h.toNumber = .ok b)
    (hparams : ctx.params = [l, h]) :
    ctx.numberBetween = .ok .pass ↔
      ∃ x' a' b', x = some x' ∧ a = some a' ∧ b = some b' ∧ a'.le x' = true ∧ x'.le b' = true := by
  rw [numberBetween, hparams, hv]
  simp only [hl, hh]
  constructor
  · intro h
    cases x with
    | none => exact absurd h (reject_ne_pass _ _ _)
    | some x =>
      cases a with
      | none => exact absurd h (reject_ne_pass _ _ _)
      | some a =>
        cases b with
        | none => exact absurd h (reject_ne_pass _ _ _)
        | some b =>
          change (if a.le x && x.le b then _ else _) = _ at h
          split_ifs at h with hbetween
          · rw [Bool.and_eq_true] at hbetween
            exact ⟨x, a, b, rfl, rfl, rfl, hbetween⟩
          · exact absurd h (reject_ne_pass _ _ _)
  · rintro ⟨x, a, b, rfl, rfl, rfl, hle, hle'⟩
    change (if a.le x && x.le b then _ else _) = _
    rw [hle, hle']
    rfl

/-! ## How the rules agree -/

/-- What the answers to the comparisons with a parameter `l`, and to lying between `l` and `h`, have to
do with each other. -/
structure ComparisonsAgree (ctx : RuleContext) (l h : Value) : Prop where
  /-- A number is less than another, equal to it or greater. -/
  one : ctx.value.IsNumeric → l.IsNumeric →
    ∃! c, c ∈ [Comparison.less, .equal, .greater] ∧ c.Passes ctx l
  atMost : ctx.value.IsNumeric → l.IsNumeric → (Comparison.atMost.Passes ctx l ↔
    Comparison.less.Passes ctx l ∨ Comparison.equal.Passes ctx l)
  atLeast : ctx.value.IsNumeric → l.IsNumeric → (Comparison.atLeast.Passes ctx l ↔
    Comparison.greater.Passes ctx l ∨ Comparison.equal.Passes ctx l)
  different : ctx.value.IsNumeric → l.IsNumeric →
    (Comparison.different.Passes ctx l ↔ ¬ Comparison.equal.Passes ctx l)
  /-- What is no number fails, and so does what is compared with no number. -/
  refused : ¬ (ctx.value.IsNumeric ∧ l.IsNumeric) → ∀ c : Comparison,
    c.rule.judge { ctx with params := [l] } =
      (({ ctx with params := [l] } : RuleContext).translate c.key []).map .fail
  /-- Between two numbers is what is at least the one and at most the other. -/
  between : StandardRule.numberBetween.judge { ctx with params := [l, h] } = .ok .pass ↔
    Comparison.atLeast.Passes ctx l ∧ Comparison.atMost.Passes ctx h

theorem passes_iff_exists (c : Comparison) (ctx : RuleContext) (p : Value) :
    c.Passes ctx p ↔
    Succeeds (({ ctx with params := [p] } : RuleContext).translate c.key []) ∧
      ∃ x y, ctx.value.toNumber = .ok (some x) ∧ p.toNumber = .ok (some y) ∧
        c.holds x y = true := by
  rw [Comparison.Passes, c.judge_rule]
  exact compare_passes_iff _ _ _

theorem passes_iff_holds {x y : Double} (hx : ctx.value.toNumber = .ok (some x))
    (hy : l.toNumber = .ok (some y)) (ht : ctx.CanTell l) (c : Comparison) :
    c.Passes ctx l ↔ c.holds x y = true := by
  rw [passes_iff_exists]
  constructor
  · rintro ⟨-, x', y', hx', hy', h⟩
    obtain rfl := Option.some.inj (Except.ok.inj (hx.symm.trans hx'))
    obtain rfl := Option.some.inj (Except.ok.inj (hy.symm.trans hy'))
    exact h
  · exact fun h ↦ ⟨ht c, x, y, hx, hy, h⟩

/-- The comparisons with a number are decided by an order. -/
theorem exists_ordering_of_isNumeric (hv : ctx.value.IsNumeric) (hl : l.IsNumeric)
    (ht : ctx.CanTell l) :
    ∃ o : Ordering, ∀ c : Comparison, c.Passes ctx l ↔ c.admits o = true := by
  obtain ⟨x, hx⟩ := hv
  obtain ⟨y, hy⟩ := hl
  obtain ⟨o, ho⟩ := Comparison.exists_ordering (Value.isNaN_of_toNumber hx)
    (Value.isNaN_of_toNumber hy)
  exact ⟨o, fun c ↦ by rw [passes_iff_holds hx hy ht, ho]⟩

/-- **The rules that compare numbers agree with one another**, for every value and all parameters that
can be taken as numbers or are none; and infinities are numbers, but not-a-numbers are not. -/
theorem comparisonsAgree (ctx : RuleContext) {l h : Value}
    (hv : Succeeds ctx.value.toNumber)
    (hl : Succeeds l.toNumber) (hh : Succeeds h.toNumber)
    (ht : ∀ p ∈ [l, h], p.IsNumeric → ctx.CanTell p) :
    ctx.ComparisonsAgree l h ∧ (∀ w : Value, w.IsInfinity → w.IsNumeric) ∧
      ∀ w : Value, w.IsNotANumber → ¬ w.IsNumeric := by
  obtain ⟨x, hx⟩ := hv
  obtain ⟨a, ha⟩ := hl
  obtain ⟨b, hb⟩ := hh
  have hordered : ctx.value.IsNumeric → l.IsNumeric →
      ∃ o : Ordering, ∀ c : Comparison, c.Passes ctx l ↔ c.admits o = true := fun hv hl ↦
    exists_ordering_of_isNumeric hv hl (ht l List.mem_cons_self hl)
  refine ⟨⟨fun hv hl ↦ ?_, fun hv hl ↦ ?_, fun hv hl ↦ ?_, fun hv hl ↦ ?_, fun hno c ↦ ?_, ?_⟩,
    fun _ ↦ Value.IsInfinity.isNumeric, fun _ ↦ Value.IsNotANumber.not_isNumeric⟩
  · obtain ⟨o, ho⟩ := hordered hv hl
    simp only [ho]
    exact Comparison.existsUnique_admits o
  · obtain ⟨o, ho⟩ := hordered hv hl
    simp only [ho]
    cases o <;> decide
  · obtain ⟨o, ho⟩ := hordered hv hl
    simp only [ho]
    cases o <;> decide
  · obtain ⟨o, ho⟩ := hordered hv hl
    simp only [ho]
    cases o <;> decide
  · rw [c.judge_rule]
    refine compare_of_not_numeric { ctx with params := [l] } hx ha ?_ _ _
    cases x with
    | none => exact .inl rfl
    | some x =>
      cases a with
      | none => exact .inr rfl
      | some a => exact absurd ⟨⟨x, hx⟩, ⟨a, ha⟩⟩ hno
  · rw [StandardRule.judge, numberBetween_passes_iff { ctx with params := [l, h] } hx ha hb rfl]
    constructor
    · rintro ⟨x, a, b, rfl, rfl, rfl, hle, hle'⟩
      exact ⟨(passes_iff_holds hx ha (ht l (by simp) ⟨a, ha⟩) .atLeast).mpr hle,
        (passes_iff_holds hx hb (ht h (by simp) ⟨b, hb⟩) .atMost).mpr hle'⟩
    · rintro ⟨hleast, hmost⟩
      obtain ⟨-, x', a', hx', ha', hle⟩ := (passes_iff_exists _ _ _).mp hleast
      obtain ⟨-, x'', b', hx'', hb', hle'⟩ := (passes_iff_exists _ _ _).mp hmost
      obtain rfl := Except.ok.inj (hx.symm.trans hx')
      obtain rfl := Except.ok.inj (ha.symm.trans ha')
      obtain rfl := Except.ok.inj (hb.symm.trans hb')
      obtain rfl := Option.some.inj (Except.ok.inj (hx.symm.trans hx''))
      exact ⟨_, _, _, rfl, rfl, rfl, hle, hle'⟩

end

namespace Seven

open scoped Platform

/-- The number seven, under the bundled messages. -/
def seven : RuleContext :=
  ⟨.int 7, [], some "NumberBetween", none, .text "amount", .null, .null, .null,
    some (.bundled "en" "en"), []⟩

/-- Seven lies between six and a half and infinity, one a decimal and the other a text. -/
theorem comparisonsAgree_seven :
    Succeeds seven.value.toNumber ∧ Succeeds (Value.decimal (.finite false 65 (-1))).toNumber ∧
      Succeeds (Value.text " Infinity").toNumber ∧
      (∀ p ∈ [Value.decimal (.finite false 65 (-1)), .text " Infinity"],
        p.IsNumeric → seven.CanTell p) ∧
      seven.ComparisonsAgree (.decimal (.finite false 65 (-1))) (.text " Infinity") ∧
      (∀ w : Value, w.IsInfinity → w.IsNumeric) ∧ ∀ w : Value, w.IsNotANumber → ¬ w.IsNumeric := by
  have hv : Succeeds seven.value.toNumber := ⟨_, rfl⟩
  have hl : Succeeds (Value.decimal (.finite false 65 (-1))).toNumber := ⟨_, rfl⟩
  have hh : Succeeds (Value.text " Infinity").toNumber := ⟨_, rfl⟩
  have ht : ∀ p ∈ [Value.decimal (.finite false 65 (-1)), .text " Infinity"],
      p.IsNumeric → seven.CanTell p := fun _ _ hp ↦ canTell_of_isNumeric (.inr ⟨"en", "en", rfl⟩) hp
  exact ⟨hv, hl, hh, ht, comparisonsAgree seven hv hl hh ht⟩

end Seven

end RuleContext
end Rulebook
