import Rulebook.Proofs.Data
import Rulebook.Proofs.JsonTree
import Rulebook.Proofs.Key

/-!
# JSON texts tell JSON values apart

`Value.sameJson` is equality of JSON values: arrays are compared item by item, whether they are lists or
tuples, objects by what stands under each key, whatever the order of the keys.  The JSON text of a value
is a test of it: two values with a text have one text exactly when they are the same
(`Value.IsJson.jsonText_eq_iff`), and every value has one but those that hold an integer with too many
digits to be shown or are nested too deep (`Value.IsJson.succeeds_jsonTextWithin_iff`).

A value is written as a tree (`Value.IsJson.exists_tree`), and trees with one text have the same units.
No character is half of a surrogate pair, so that values whose trees have the same units are the same
(`Value.IsJson.sameJson_of_split_eq`).
-/

set_option autoImplicit false

namespace Rulebook

/-! ## Results put together -/

section Results

variable {β γ : Type} {f : β → Except Failure γ} {xs ys : List β}

theorem mapM_congr_of_forall₂ {R : β → β → Prop} (hall : List.Forall₂ R xs ys)
    (h : ∀ x ∈ xs, ∀ y ∈ ys, R x y → f x = f y) : xs.mapM f = ys.mapM f := by
  induction hall with
  | nil => rfl
  | cons hxy _ ih =>
    have hrest := ih fun x hx y hy ↦ h x (List.mem_cons_of_mem _ hx) y (List.mem_cons_of_mem _ hy)
    rw [List.mapM_cons, List.mapM_cons, h _ List.mem_cons_self _ List.mem_cons_self hxy, hrest]

end Results

/-- The texts of several things in brackets. -/
def enclosed {β : Type} (opening closing : String) (f : β → Except Failure String) (xs : List β) :
    Except Failure String := do
  return bracketed opening closing (← xs.mapM f)

theorem enclosed_eq_ok_iff {β : Type} {f : β → Except Failure String} {xs : List β}
    {opening closing p : String} :
    enclosed opening closing f xs = .ok p ↔
      ∃ ps, List.Forall₂ (fun x p ↦ f x = .ok p) xs ps ∧ p = bracketed opening closing ps := by
  constructor
  · intro h
    obtain ⟨ps, hps, h⟩ := bind_eq_ok h
    exact ⟨ps, mapM_eq_ok_iff.mp hps, (Except.ok.inj h).symm⟩
  · rintro ⟨ps, hps, rfl⟩
    rw [enclosed, mapM_eq_ok_iff.mpr hps]
    rfl

/-! ## Integers -/

/-- An integer with too many digits to be shown. -/
def IsLong (n : Int) : Prop := maxShownDigits < (Nat.toDigits 10 n.natAbs).length

theorem succeeds_showInteger_iff {n : Int} : Succeeds (showInteger n) ↔ ¬ IsLong n := by
  rw [showInteger, IsLong]
  split
  · rename_i h
    exact iff_of_false (not_succeeds_error _) (not_not_intro h)
  · rename_i h
    exact iff_of_true (succeeds_ok _) h

theorem eq_integerText {n : Int} {p : String} (h : showInteger n = .ok p) : p = integerText n := by
  rw [showInteger] at h
  split at h
  · cases h
  · exact (Except.ok.inj h).symm

namespace Value

/-! ## JSON values -/

mutual

/-- Whether two values are equal as JSON values: arrays item by item, objects by what stands under each
key. -/
def sameJson : Value → Value → Bool
  | null, null => true
  | bool a, bool b => a == b
  | int m, int n => m == n
  | text s, text t => s == t
  | list xs, list ys | list xs, tuple ys | tuple xs, list ys | tuple xs, tuple ys => sameItems xs ys
  | dict es, dict fs => es.length == fs.length && sameEntries es fs
  | _, _ => false

/-- Whether two arrays have the same items. -/
def sameItems : List Value → List Value → Bool
  | [], [] => true
  | x :: xs, y :: ys => sameJson x y && sameItems xs ys
  | _, _ => false

/-- Whether a second object has the same value under each key of a first one. -/
def sameEntries : List (Value × Value) → List (Value × Value) → Bool
  | [], _ => true
  | (k, v) :: es, fs =>
    (match lookup k fs with
      | some w => sameJson v w
      | none => false) && sameEntries es fs

end

/-- A value that JSON has a form for: null, a truth value, an integer, a text, or an array or object of
such values, whose keys are texts. -/
inductive IsJson : Value → Prop
  | null : IsJson null
  | bool (b : Bool) : IsJson (bool b)
  | int (n : Int) : IsJson (int n)
  | text (s : String) : IsJson (text s)
  | list {xs : List Value} (h : ∀ x ∈ xs, IsJson x) : IsJson (list xs)
  | tuple {xs : List Value} (h : ∀ x ∈ xs, IsJson x) : IsJson (tuple xs)
  | dict {es : List Entry} (hkeys : ∀ e ∈ es, ∃ s, e.1 = .text s) (hvalues : ∀ e ∈ es, IsJson e.2)
      (hdistinct : (es.map Prod.fst).Nodup) : IsJson (dict es)

/-- A list, a tuple or a mapping. -/
def isContainer : Value → Bool
  | list _ | tuple _ | dict _ => true
  | _ => false

/-- What is directly in a container: the items of a list or tuple, the values of a mapping. -/
def parts : Value → List Value
  | list xs | tuple xs => xs
  | dict es => es.map Prod.snd
  | _ => []

/-- A value lies a number of levels deep in another: in itself at no level, and in a container one level
deeper than in a part of it. -/
inductive Within (w : Value) : Nat → Value → Prop
  | self : Within w 0 w
  | part {d : Nat} {v x : Value} (hx : x ∈ v.parts) (h : Within w d x) : Within w (d + 1) v

/-- Values with no integer too long to be shown, and with no container as many levels deep as there is
room for. -/
structure Writable (room : Nat) (v : Value) : Prop where
  short : ∀ (n : Int) (d : Nat), (int n).Within d v → ¬ IsLong n
  shallow : ∀ (w : Value) (d : Nat), w.Within d v → w.isContainer = true → d < room

variable {room : Nat} {v w : Value} {xs ys : List Value} {es fs : List Entry}

theorem sameItems_iff :
    sameItems xs ys = true ↔ List.Forall₂ (fun x y ↦ sameJson x y = true) xs ys := by
  induction xs generalizing ys with
  | nil => cases ys <;> simp [sameItems]
  | cons x r ih => cases ys <;> simp [sameItems, ih]

theorem sameEntries_iff :
    sameEntries es fs = true ↔ ∀ e ∈ es, ∃ w, lookup e.1 fs = some w ∧ sameJson e.2 w = true := by
  induction es with
  | nil => simp [sameEntries]
  | cons e r ih =>
    rw [sameEntries, Bool.and_eq_true, ih, List.forall_mem_cons]
    refine and_congr_left fun _ ↦ ?_
    cases lookup e.1 fs <;> simp

/-- In an object, each entry is what is found under its key. -/
theorem lookup_eq_some_iff (hdistinct : (es.map Prod.fst).Nodup) {s : String} :
    lookup (.text s) es = some v ↔ (.text s, v) ∈ es := by
  induction es with
  | nil => simp [lookup]
  | cons e r ih =>
    rw [List.map_cons, List.nodup_cons] at hdistinct
    obtain ⟨k, w⟩ := e
    rw [lookup]
    split
    · rename_i hk
      obtain rfl := (sameKey_text_iff k s).mp hk
      have hrest : (.text s, v) ∉ r := fun h ↦ hdistinct.1 (List.mem_map.mpr ⟨_, h, rfl⟩)
      simp [hrest, eq_comm]
    · rename_i hk
      rw [ih hdistinct.2, List.mem_cons, Prod.mk.injEq]
      refine (or_iff_right ?_).symm
      rintro ⟨rfl, -⟩
      exact hk ((sameKey_text_iff (.text s) s).mpr rfl)

/-! ## The texts of arrays and objects -/

theorem jsonTextWithin_of_items (h : v.items? = some xs) :
    v.jsonTextWithin (room + 1) = enclosed "[" "]" (jsonTextWithin room) xs := by
  cases v with
  | list | tuple =>
    obtain rfl := Option.some.inj h
    rw [jsonTextWithin, jsonItemsWithin_eq]
    rfl
  | _ => cases h

/-- The text of an entry of an object. -/
def entryText (room : Nat) (e : Entry) : Except Failure String := do
  let key ← Json.keyText e.1
  return Json.quoted key ++ ": " ++ (← e.2.jsonTextWithin room)

/-- The text that an entry of an object is sorted by. -/
def keyOf {β : Type} (e : Value × β) : String := e.1.text?.getD ""

theorem comparesBy_keyOf {β : Type} :
    ComparesBy (fun a b : Value × β ↦ less a.1 b.1) keyOf fun e ↦ ∃ s, e.1 = .text s := by
  rintro ⟨_, v⟩ ⟨_, w⟩ ⟨s, rfl⟩ ⟨t, rfl⟩
  rfl

/-- Entries under texts, each with what is made of its value, are again entries under texts. -/
theorem keys_jsonEntriesWithin (room : Nat) (hkeys : ∀ e ∈ es, ∃ s, e.1 = .text s) :
    ∀ d ∈ jsonEntriesWithin room es, ∃ s, d.1 = .text s := by
  rw [jsonEntriesWithin_eq]
  exact List.forall_mem_map.mpr hkeys

theorem nodup_keyOf (room : Nat) (hkeys : ∀ e ∈ es, ∃ s, e.1 = .text s)
    (hdistinct : (es.map Prod.fst).Nodup) : ((jsonEntriesWithin room es).map keyOf).Nodup := by
  have htext : ((jsonEntriesWithin room es).map keyOf).map Value.text = es.map Prod.fst := by
    rw [jsonEntriesWithin_eq, List.map_map, List.map_map]
    refine List.map_congr_left fun e he ↦ ?_
    obtain ⟨s, hs⟩ := hkeys e he
    simp [keyOf, hs, text?]
  exact List.Nodup.of_map Value.text (htext ▸ hdistinct)

/-- An object is written as its entries in some order. -/
theorem exists_jsonTextWithin_dict (room : Nat) (hkeys : ∀ e ∈ es, ∃ s, e.1 = .text s) :
    ∃ es', es'.Perm es ∧
      (dict es).jsonTextWithin (room + 1) = enclosed openBrace closeBrace (entryText room) es' := by
  obtain ⟨sorted, hsorted, -⟩ :=
    exists_sortWith comparesBy_keyOf (keys_jsonEntriesWithin room hkeys)
  have hcomp :=
    congrFun₂ (List.eq_map_comp_perm fun e : Entry ↦ (e.1, e.2.jsonTextWithin room)) sorted es
  obtain ⟨es', rfl, hes'⟩ := hcomp.mpr (jsonEntriesWithin_eq room es ▸ perm_sortWith hsorted)
  refine ⟨es', hes', ?_⟩
  rw [jsonTextWithin, hsorted]
  show Json.objectText _ = _
  rw [Json.objectText, List.mapM_map]
  rfl

/-- The order of its entries does not show in the text of an object. -/
theorem jsonTextWithin_dict_of_perm (hkeys : ∀ e ∈ es, ∃ s, e.1 = .text s)
    (hdistinct : (es.map Prod.fst).Nodup)
    (h : (jsonEntriesWithin room es).Perm (jsonEntriesWithin room fs)) :
    (dict es).jsonTextWithin (room + 1) = (dict fs).jsonTextWithin (room + 1) := by
  rw [jsonTextWithin, jsonTextWithin,
    sortWith_eq_of_perm comparesBy_keyOf (keys_jsonEntriesWithin room hkeys)
      (nodup_keyOf room hkeys hdistinct) h]

/-! ## Which values have a text -/

theorem succeeds_enclosed_iff {β : Type} {opening closing : String} {f : β → Except Failure String}
    {xs : List β} : Succeeds (enclosed opening closing f xs) ↔ ∀ x ∈ xs, Succeeds (f x) := by
  rw [enclosed, succeeds_bind_pure_iff, succeeds_mapM_iff]

theorem within_zero_iff : w.Within 0 v ↔ w = v :=
  ⟨fun | .self => rfl, fun h ↦ h ▸ .self⟩

theorem within_succ_iff {d : Nat} : w.Within (d + 1) v ↔ ∃ x ∈ v.parts, w.Within d x :=
  ⟨fun | .part hx h => ⟨_, hx, h⟩, fun ⟨_, hx, h⟩ ↦ .part hx h⟩

theorem parts_of_not_isContainer (h : v.isContainer = false) : v.parts = [] := by
  cases v with
  | list | tuple | dict => cases h
  | _ => rfl

/-- Nothing else lies in a scalar. -/
theorem within_scalar_iff (h : v.isContainer = false) {d : Nat} : w.Within d v ↔ d = 0 ∧ w = v := by
  cases d with
  | zero => simp [within_zero_iff]
  | succ d => simp [within_succ_iff, parts_of_not_isContainer h]

theorem writable_scalar_iff (h : v.isContainer = false) :
    v.Writable room ↔ ∀ n, v = int n → ¬ IsLong n := by
  constructor
  · exact fun hv n hn ↦ hv.short n 0 (within_zero_iff.mpr hn.symm)
  · intro hv
    refine ⟨fun n d hn ↦ hv n ((within_scalar_iff h).mp hn).2.symm, fun w d hw hc ↦ ?_⟩
    obtain ⟨-, rfl⟩ := (within_scalar_iff h).mp hw
    exact absurd hc (Bool.eq_false_iff.mp h)

theorem not_writable_zero (h : v.isContainer = true) : ¬ v.Writable 0 :=
  fun hv ↦ Nat.not_lt_zero 0 (hv.shallow v 0 .self h)

/-- A container can be written when there is a level of room for it and its parts can. -/
theorem writable_succ_iff (h : v.isContainer = true) :
    v.Writable (room + 1) ↔ ∀ x ∈ v.parts, x.Writable room := by
  constructor
  · intro hv x hx
    exact ⟨fun n d hn ↦ hv.short n (d + 1) (.part hx hn),
      fun w d hw hc ↦ Nat.lt_of_succ_lt_succ (hv.shallow w (d + 1) (.part hx hw) hc)⟩
  · refine fun hall ↦ ⟨fun n d hn ↦ ?_, fun w d hw hc ↦ ?_⟩
    · cases hn with
      | self => cases h
      | part hx hn => exact (hall _ hx).short n _ hn
    · cases hw with
      | self => exact Nat.succ_pos room
      | part hx hw => exact Nat.succ_lt_succ ((hall _ hx).shallow w _ hw hc)

/-- **The JSON values that have a text are those without an integer too long to be shown that are not
nested too deep.** -/
theorem IsJson.succeeds_jsonTextWithin_iff (h : v.IsJson) (room : Nat) :
    Succeeds (v.jsonTextWithin room) ↔ v.Writable room := by
  induction h generalizing room with
  | null | bool | text =>
    exact iff_of_true (succeeds_ok _) ((writable_scalar_iff rfl).mpr nofun)
  | int n =>
    rw [jsonTextWithin, succeeds_showInteger_iff, writable_scalar_iff rfl]
    simp
  | list _ ih | tuple _ ih =>
    cases room with
    | zero => exact iff_of_false (not_succeeds_error _) (not_writable_zero rfl)
    | succ room =>
      rw [jsonTextWithin_of_items rfl, succeeds_enclosed_iff, writable_succ_iff rfl]
      exact forall₂_congr fun x hx ↦ ih x hx room
  | @dict es hkeys _ _ ih =>
    cases room with
    | zero => exact iff_of_false (not_succeeds_error _) (not_writable_zero rfl)
    | succ room =>
      obtain ⟨es', hperm, htext⟩ := exists_jsonTextWithin_dict room hkeys
      rw [htext, succeeds_enclosed_iff, writable_succ_iff rfl, parts, List.forall_mem_map]
      simp only [hperm.mem_iff]
      refine forall₂_congr fun e he ↦ ?_
      obtain ⟨s, hs⟩ := hkeys e he
      rw [← ih e he room, entryText, hs]
      exact succeeds_bind_pure_iff

theorem IsJson.succeeds_jsonText_iff [Platform] (h : v.IsJson) :
    Succeeds v.jsonText ↔ v.Writable Platform.writtenDepth :=
  h.succeeds_jsonTextWithin_iff _

/-! ## Different values have different texts -/

mutual

/-- A value is written as a tree; the entries of an object may stand in another order. -/
inductive WrittenAs : Value → Json.Tree → Prop
  | null : WrittenAs null .null
  | bool (b : Bool) : WrittenAs (bool b) (.bool b)
  | int (n : Int) : WrittenAs (int n) (.int n)
  | text (s : String) : WrittenAs (text s) (.text (Json.codePoints s))
  | list {xs : List Value} {ts : List Json.Tree} (h : List.Forall₂ WrittenAs xs ts) :
    WrittenAs (list xs) (.array ts)
  | tuple {xs : List Value} {ts : List Json.Tree} (h : List.Forall₂ WrittenAs xs ts) :
    WrittenAs (tuple xs) (.array ts)
  | dict {es es' : List Entry} {ds : List (List Json.CodePoint × Json.Tree)} (hperm : es'.Perm es)
    (h : List.Forall₂ EntryWrittenAs es' ds) : WrittenAs (dict es) (.object ds)

/-- An entry is written as a key and a tree. -/
inductive EntryWrittenAs : Value × Value → List Json.CodePoint × Json.Tree → Prop
  | mk (s : String) {v : Value} {t : Json.Tree} (h : WrittenAs v t) :
    EntryWrittenAs (.text s, v) (Json.codePoints s, t)

end

/-- What is written as texts one by one is written as trees one by one. -/
theorem exists_trees {β τ : Type} {f : β → Except Failure String} {S : β → τ → Prop}
    {text : τ → String} {xs : List β} {ps : List String}
    (h : List.Forall₂ (fun x p ↦ f x = .ok p) xs ps)
    (hstep : ∀ x ∈ xs, ∀ p, f x = .ok p → ∃ t, S x t ∧ p = text t) :
    ∃ ts, List.Forall₂ S xs ts ∧ ps = ts.map text := by
  induction h with
  | nil => exact ⟨[], .nil, rfl⟩
  | cons hp _ ih =>
    obtain ⟨hx, hrest⟩ := List.forall_mem_cons.mp hstep
    obtain ⟨t, ht, rfl⟩ := hx _ hp
    obtain ⟨ts, hts, rfl⟩ := ih hrest
    exact ⟨t :: ts, .cons ht hts, rfl⟩

theorem exists_tree_of_entryText {s p : String}
    (h : ∀ a, v.jsonTextWithin room = .ok a → ∃ t, v.WrittenAs t ∧ a = t.json)
    (hp : entryText room (.text s, v) = .ok p) :
    ∃ d, EntryWrittenAs (.text s, v) d ∧ p = Json.Tree.jsonEntry d := by
  obtain ⟨key, hkey, hp⟩ := bind_eq_ok hp
  obtain ⟨a, ha, hp⟩ := bind_eq_ok hp
  obtain rfl := Except.ok.inj hkey
  obtain ⟨t, ht, rfl⟩ := h a ha
  exact ⟨(Json.codePoints s, t), .mk s ht, (Except.ok.inj hp).symm⟩

/-- **The text of a JSON value is the text of a tree that it is written as.** -/
theorem IsJson.exists_tree (h : v.IsJson) {p : String} (hp : v.jsonTextWithin room = .ok p) :
    ∃ t, v.WrittenAs t ∧ p = t.json := by
  induction h generalizing room p with
  | null => exact ⟨.null, .null, (Except.ok.inj hp).symm⟩
  | bool b => exact ⟨.bool b, .bool b, (Except.ok.inj hp).symm⟩
  | int n => exact ⟨.int n, .int n, eq_integerText hp⟩
  | text s => exact ⟨.text (Json.codePoints s), .text s, (Except.ok.inj hp).symm⟩
  | list _ ih | tuple _ ih =>
    cases room with
    | zero => cases hp
    | succ room =>
      rw [jsonTextWithin_of_items rfl, enclosed_eq_ok_iff] at hp
      obtain ⟨ps, hps, rfl⟩ := hp
      obtain ⟨ts, hts, rfl⟩ := exists_trees hps fun x hx p hp ↦ ih x hx hp
      exact ⟨.array ts, by constructor; exact hts, (Json.Tree.json_array ts).symm⟩
  | @dict es hkeys _ _ ih =>
    cases room with
    | zero => cases hp
    | succ room =>
      obtain ⟨es', hperm, htext⟩ := exists_jsonTextWithin_dict room hkeys
      rw [htext, enclosed_eq_ok_iff] at hp
      obtain ⟨ps, hps, rfl⟩ := hp
      have hentry : ∀ e ∈ es', ∀ p, entryText room e = .ok p →
          ∃ d, EntryWrittenAs e d ∧ p = Json.Tree.jsonEntry d := by
        rintro ⟨k, v⟩ he p hp
        have he := hperm.mem_iff.mp he
        obtain ⟨s, rfl⟩ := hkeys _ he
        exact exists_tree_of_entryText (fun a ha ↦ ih _ he ha) hp
      obtain ⟨ds, hds, rfl⟩ := exists_trees hps hentry
      exact ⟨.object ds, .dict hperm hds, (Json.Tree.json_object ds).symm⟩

/-- Trees that are the same one by one come from values that are. -/
theorem forall₂_of_map_eq {β τ γ : Type} {S : β → τ → Prop} {f : τ → γ} {T : β → β → Prop}
    {xs ys : List β} {ts us : List τ} (hxs : List.Forall₂ S xs ts) (hys : List.Forall₂ S ys us)
    (h : ts.map f = us.map f)
    (hstep : ∀ x ∈ xs, ∀ y ∈ ys, ∀ t u, S x t → S y u → f t = f u → T x y) :
    List.Forall₂ T xs ys := by
  induction hxs generalizing ys us with
  | nil =>
    cases hys with
    | nil => exact .nil
    | cons => cases h
  | cons ht _ ih =>
    cases hys with
    | nil => cases h
    | cons hu hys =>
      rw [List.map_cons, List.map_cons, List.cons.injEq] at h
      refine .cons (hstep _ List.mem_cons_self _ List.mem_cons_self _ _ ht hu h.1) ?_
      exact ih hys h.2 fun x hx y hy ↦
        hstep x (List.mem_cons_of_mem _ hx) y (List.mem_cons_of_mem _ hy)

theorem exists_mem_of_forall₂ {β γ : Type} {R : β → γ → Prop} {xs : List β} {ys : List γ}
    (h : List.Forall₂ R xs ys) {x : β} (hx : x ∈ xs) : ∃ y ∈ ys, R x y := by
  induction h with
  | nil => cases hx
  | @cons a b _ _ hab _ ih =>
    rcases List.mem_cons.mp hx with rfl | hx
    · exact ⟨b, List.mem_cons_self, hab⟩
    · obtain ⟨y, hy, hxy⟩ := ih hx
      exact ⟨y, List.mem_cons_of_mem b hy, hxy⟩

/-- Objects whose entries, in some order, are the same one by one are the same. -/
theorem sameJson_dict_of_forall₂ {es' fs' : List Entry} (hes : es'.Perm es) (hfs : fs'.Perm fs)
    (hkeys : ∀ e ∈ es, ∃ s, e.1 = .text s) (hdistinct : (fs.map Prod.fst).Nodup)
    (h : List.Forall₂ (fun e d ↦ e.1 = d.1 ∧ sameJson e.2 d.2 = true) es' fs') :
    sameJson (dict es) (dict fs) = true := by
  rw [sameJson, Bool.and_eq_true, beq_iff_eq, sameEntries_iff]
  refine ⟨by rw [← hes.length_eq, ← hfs.length_eq, h.length_eq], fun e he ↦ ?_⟩
  obtain ⟨s, hs⟩ := hkeys e he
  obtain ⟨d, hd, hkey, hsame⟩ := exists_mem_of_forall₂ h (hes.mem_iff.mpr he)
  refine ⟨d.2, ?_, hsame⟩
  rw [hs, lookup_eq_some_iff hdistinct, ← hs, hkey]
  exact hfs.mem_iff.mp hd

theorem IsJson.of_mem_items (h : v.IsJson) (hxs : v.items? = some xs) {x : Value} (hx : x ∈ xs) :
    x.IsJson := by
  cases h with
  | list h | tuple h => exact h x (Option.some.inj hxs ▸ hx)
  | _ => cases hxs

/-- **JSON values that are written with the same units are the same.** -/
theorem IsJson.sameJson_of_split_eq (hv : v.IsJson) (hw : w.IsJson) {t u : Json.Tree}
    (ht : v.WrittenAs t) (hu : w.WrittenAs u) (h : t.split = u.split) : sameJson v w = true := by
  induction hv generalizing w t u with
  | null =>
    cases ht
    cases hu with
    | null => rfl
    | _ => cases h
  | bool a =>
    cases ht
    cases hu with
    | bool b =>
      obtain rfl := Json.Tree.bool.inj h
      exact beq_self_eq_true a
    | _ => cases h
  | int m =>
    cases ht
    cases hu with
    | int n =>
      obtain rfl := Json.Tree.int.inj h
      exact beq_self_eq_true m
    | _ => cases h
  | text s =>
    cases ht
    cases hu with
    | text t =>
      obtain rfl := Json.split_codePoints_inj (Json.Tree.text.inj h)
      exact beq_self_eq_true s
    | _ => cases h
  | list hxs ih | tuple hxs ih =>
    cases ht
    rename_i ts hts
    cases hu with
    | list hus | tuple hus =>
      rw [Json.Tree.split_array, Json.Tree.split_array] at h
      rw [sameJson, sameItems_iff]
      refine forall₂_of_map_eq hts hus (Json.Tree.array.inj h) fun x hx y hy t u ht hu hsplit ↦ ?_
      exact ih x hx (hw.of_mem_items rfl hy) ht hu hsplit
    | _ => cases h
  | @dict es hkeys hvalues hdistinct ih =>
    cases ht
    rename_i es' ds hds hes
    cases hu with
    | @dict fs fs' ds' hfs hds' =>
      cases hw with
      | dict hkeys' hvalues' hdistinct' =>
        rw [Json.Tree.split_object, Json.Tree.split_object] at h
        refine sameJson_dict_of_forall₂ hes hfs hkeys hdistinct'
          (forall₂_of_map_eq hds hds' (Json.Tree.object.inj h) ?_)
        rintro _ he _ hf _ _ ⟨s, ht⟩ ⟨s', hu⟩ hsplit
        obtain ⟨hkey, hvalue⟩ := Prod.mk.inj hsplit
        obtain rfl := Json.split_codePoints_inj hkey
        exact ⟨rfl, ih _ (hes.mem_iff.mp he) (hvalues' _ (hfs.mem_iff.mp hf)) ht hu hvalue⟩
    | _ => cases h

/-! ## The same value has one text -/

/-- The same objects are written from the same keys and texts. -/
theorem perm_jsonEntriesWithin (hkeys : ∀ e ∈ es, ∃ s, e.1 = .text s) (hes : (es.map Prod.fst).Nodup)
    (hfs : (fs.map Prod.fst).Nodup) (h : sameJson (dict es) (dict fs) = true)
    (htexts : ∀ e ∈ es, ∀ d ∈ fs, sameJson e.2 d.2 = true →
      e.2.jsonTextWithin room = d.2.jsonTextWithin room) :
    (jsonEntriesWithin room es).Perm (jsonEntriesWithin room fs) := by
  rw [sameJson, Bool.and_eq_true, beq_iff_eq, sameEntries_iff] at h
  obtain ⟨hlength, hentries⟩ := h
  have hsubset : jsonEntriesWithin room es ⊆ jsonEntriesWithin room fs := by
    rw [jsonEntriesWithin_eq, jsonEntriesWithin_eq, List.subset_def, List.forall_mem_map]
    intro e he
    obtain ⟨s, hs⟩ := hkeys e he
    obtain ⟨w, hw, hsame⟩ := hentries e he
    rw [hs, lookup_eq_some_iff hfs] at hw
    exact List.mem_map.mpr ⟨(.text s, w), hw, by rw [hs, htexts e he _ hw hsame]⟩
  have hsubperm := List.subperm_of_subset (nodup_keyOf room hkeys hes).of_map hsubset
  refine hsubperm.perm_of_length_le ?_
  rw [jsonEntriesWithin_eq, jsonEntriesWithin_eq, List.length_map, List.length_map, hlength]

/-- The same JSON values are written alike; if they have no text, it is for the same reason. -/
theorem IsJson.jsonTextWithin_congr (hv : v.IsJson) (hw : w.IsJson) (h : sameJson v w = true)
    (room : Nat) : v.jsonTextWithin room = w.jsonTextWithin room := by
  induction hv generalizing room w with
  | null => cases hw <;> simp_all [sameJson]
  | bool a => cases hw <;> simp_all [sameJson]
  | int m => cases hw <;> simp_all [sameJson]
  | text s => cases hw <;> simp_all [sameJson]
  | list hxs ih | tuple hxs ih =>
    cases hw with
    | list hys | tuple hys =>
      rw [sameJson, sameItems_iff] at h
      cases room with
      | zero => rfl
      | succ room =>
        rw [jsonTextWithin_of_items rfl, jsonTextWithin_of_items rfl, enclosed, enclosed,
          mapM_congr_of_forall₂ h fun x hx y hy hxy ↦ ih x hx (hys y hy) hxy room]
    | _ => simp [sameJson] at h
  | @dict es hkeys hvalues hdistinct ih =>
    cases hw with
    | @dict fs hkeys' hvalues' hdistinct' =>
      cases room with
      | zero => rfl
      | succ room =>
        exact jsonTextWithin_dict_of_perm hkeys hdistinct
          (perm_jsonEntriesWithin hkeys hdistinct hdistinct' h
            fun e he d hd hed ↦ ih e he (hvalues' d hd) hed room)
    | _ => simp [sameJson] at h

variable [Platform]

theorem IsJson.jsonText_congr (hv : v.IsJson) (hw : w.IsJson) (h : sameJson v w = true) :
    v.jsonText = w.jsonText :=
  hv.jsonTextWithin_congr hw h _

/-- **JSON values with a text have one text exactly when they are the same.** -/
theorem IsJson.jsonText_eq_iff (hv : v.IsJson) (hw : w.IsJson) {s : String}
    (hs : v.jsonText = .ok s) : w.jsonText = .ok s ↔ sameJson v w = true := by
  constructor
  · intro ht
    obtain ⟨t, hvt, rfl⟩ := hv.exists_tree hs
    obtain ⟨u, hwu, htu⟩ := hw.exists_tree ht
    exact hv.sameJson_of_split_eq hw hvt hwu ((Json.Tree.json_eq_iff t u).mp htu)
  · intro h
    rw [← hv.jsonText_congr hw h, hs]

end Value
end Rulebook
