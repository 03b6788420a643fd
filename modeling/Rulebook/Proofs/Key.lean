import Rulebook.Value.Equality

/-!
# Keys of mappings

What can be the key of a mapping (`Value.isKey`), and when two keys are the same.  `Value.equals`
compares values of many kinds case by case; here it is brought into one form: every key has at most
one *canonical key* (`Value.key?`), and two keys are the same exactly when they have the same one
(`sameKey_iff`).  A not-a-number, and what is compared by identity only, has none and is the same as
nothing.

So `Value.sameKey` is symmetric and transitive on keys (`sameKey_comm`, `sameKey_trans`), though not
reflexive.
-/

set_option autoImplicit false

namespace Rulebook

/-- What a key is compared by. -/
inductive Key where
  | null
  | number (x : Extended)
  | text (s : String)
  | bytes (bs : List UInt8)
  | day (m : Moment)
  /-- A point in time; whether it is one in universal time. -/
  | time (universal : Bool) (instant : Int)
  | rule (r : StandardRule)
  | callable (id : String)
  | cls (c : ClassRef)
  | tuple (items : List Key)

namespace Moment

/-- What a moment is compared by. -/
def key (m : Moment) : Key :=
  match m.clock with
  | none => .day m
  | some c => .time c.offset.isSome m.instant

theorem same_iff (a b : Moment) : a.same b = true ↔ a.key = b.key := by
  rw [same, key, key]
  cases a.clock <;> cases b.clock <;> simp

end Moment

namespace Value

mutual

/-- Whether a value can be a key: containers that can change cannot, nor can a signalling
not-a-number. -/
def isKey : Value → Bool
  | list _ | set _ | dict _ | record _ | options .. => false
  | decimal d => !d.isSignalling
  | tuple xs => areKeys xs
  | _ => true

/-- Whether all of some values can be keys. -/
def areKeys : List Value → Bool
  | [] => true
  | x :: xs => isKey x && areKeys xs

end

mutual

/-- What a key is compared by, if it is the same as anything. -/
def key? : Value → Option Key
  | null => some .null
  | text s => some (.text s)
  | bytes bs => some (.bytes bs)
  | moment m => some m.key
  | rule r => some (.rule r)
  | callable id _ => some (.callable id)
  | cls c => some (.cls c)
  | tuple xs => (keys? xs).map .tuple
  | v => v.toExtended?.map .number

/-- What the items of a tuple are compared by. -/
def keys? : List Value → Option (List Key)
  | [] => some []
  | x :: xs => (key? x).bind fun k ↦ (keys? xs).map (k :: ·)

end

/-- Whether a value is of the kind that a canonical key stands for. -/
def Stands : Key → Value → Prop
  | .null, v => v = null
  | .number _, v => v.isNumeric = true
  | .text s, v => v = text s
  | .bytes bs, v => v = bytes bs
  | .day _, v | .time .., v => ∃ m, v = moment m
  | .rule r, v => v = rule r
  | .callable id, v => ∃ n, v = callable id n
  | .cls c, v => v = cls c
  | .tuple _, v => ∃ xs, v = tuple xs

/-- Every kind of canonical key belongs to one kind of value. -/
theorem stands_of_key? {v : Value} {k : Key} (h : v.key? = some k) : Stands k v := by
  cases v with
  | moment m =>
    rw [key?, Option.some.injEq, Moment.key] at h
    cases hc : m.clock <;> rw [hc] at h <;> subst h <;> exact ⟨m, rfl⟩
  | tuple xs =>
    obtain ⟨ks, -, rfl⟩ := Option.map_eq_some_iff.mp h
    exact ⟨xs, rfl⟩
  | bool _ | int _ | float _ | decimal _ =>
    simp only [key?, Option.map_eq_some_iff] at h
    obtain ⟨x, -, rfl⟩ := h
    rfl
  | null | text _ | bytes _ | rule _ | callable _ _ | cls _ =>
    obtain rfl := Option.some.inj h
    first | rfl | exact ⟨_, rfl⟩
  | _ => cases h

theorem key?_of_isNumeric {v : Value} (h : v.isNumeric = true) :
    v.key? = v.toExtended?.map .number := by
  cases v <;> first | rfl | cases h

theorem isSignalling_of_isKey {v : Value} (h : v.isKey = true) : v.isSignalling = false := by
  cases v with
  | decimal d => rwa [isKey, Bool.not_eq_true'] at h
  | _ => rfl

/-! ## When two keys are the same -/

/-- Two optional things that are there and the same. -/
def Agree {κ : Type} (a b : Option κ) : Prop := ∃ k, a = some k ∧ b = some k

theorem agree_some {κ : Type} (a b : κ) : Agree (some a) (some b) ↔ a = b :=
  ⟨fun ⟨_, h, g⟩ ↦ (Option.some.inj h).trans (Option.some.inj g).symm, fun h ↦ ⟨a, rfl, h ▸ rfl⟩⟩

theorem agree_map {κ μ : Type} {f : κ → μ} (hf : ∀ x y, f x = f y → x = y) {a b : Option κ} :
    Agree (a.map f) (b.map f) ↔ Agree a b := by
  constructor
  · rintro ⟨k, ha, hb⟩
    obtain ⟨x, rfl, hx⟩ := Option.map_eq_some_iff.mp ha
    obtain ⟨y, rfl, hy⟩ := Option.map_eq_some_iff.mp hb
    exact (agree_some x y).mpr (hf x y (hx.trans hy.symm))
  · rintro ⟨k, rfl, rfl⟩
    exact ⟨f k, rfl, rfl⟩

/-- What agrees with the first item and what agrees with the others, put together. -/
theorem agree_cons {κ : Type} {a b : Option κ} {as bs : Option (List κ)} :
    Agree (a.bind fun k ↦ as.map (k :: ·)) (b.bind fun k ↦ bs.map (k :: ·)) ↔
      Agree a b ∧ Agree as bs := by
  cases a <;> cases b <;> cases as <;> cases bs <;> simp [Agree]

theorem not_agree_nil_cons {κ : Type} {a : Option κ} {as : Option (List κ)} :
    ¬ Agree (some []) (a.bind fun k ↦ as.map (k :: ·)) := by
  cases a <;> cases as <;> simp [Agree]

theorem agree_comm {κ : Type} {a b : Option κ} : Agree a b ↔ Agree b a :=
  ⟨fun ⟨k, h, g⟩ ↦ ⟨k, g, h⟩, fun ⟨k, h, g⟩ ↦ ⟨k, g, h⟩⟩

theorem equalNumbers_iff {a b : Value} (ha : a.isSignalling = false) (hb : b.isSignalling = false) :
    equalNumbers a b = .ok true ↔ Agree a.toExtended? b.toExtended? := by
  rw [equalNumbers, ha, hb]
  cases a.toExtended? <;> cases b.toExtended? <;> simp [Agree, eq_comm]

/-- Two values that are not of one kind with a content are equal when they are one callable. -/
theorem isSameCallable_iff {a b : Value} (hnumeric : ¬ (a.isNumeric && b.isNumeric) = true)
    (hnull : a = null → b = null → False) (htext : ∀ s t, a = text s → b = text t → False)
    (hbytes : ∀ s t, a = bytes s → b = bytes t → False)
    (hmoment : ∀ m n, a = moment m → b = moment n → False)
    (htuple : ∀ xs ys, a = tuple xs → b = tuple ys → False) :
    isSameCallable a b = true ↔ Agree a.key? b.key? := by
  constructor
  · intro h
    rw [isSameCallable.eq_def] at h
    split at h
    · exact eq_of_beq h ▸ ⟨_, rfl, rfl⟩
    · exact eq_of_beq h ▸ ⟨_, rfl, rfl⟩
    · exact eq_of_beq h ▸ ⟨_, rfl, rfl⟩
    · cases h
  · rintro ⟨k, ha, hb⟩
    have ha := stands_of_key? ha
    have hb := stands_of_key? hb
    cases k with
    | null => exact (hnull ha hb).elim
    | number x => exact (hnumeric (Bool.and_eq_true_iff.mpr ⟨ha, hb⟩)).elim
    | text s => exact (htext s s ha hb).elim
    | bytes bs => exact (hbytes bs bs ha hb).elim
    | day _ | time _ _ =>
      obtain ⟨m, rfl⟩ := ha
      obtain ⟨n, rfl⟩ := hb
      exact (hmoment m n rfl rfl).elim
    | tuple _ =>
      obtain ⟨xs, rfl⟩ := ha
      obtain ⟨ys, rfl⟩ := hb
      exact (htuple xs ys rfl rfl).elim
    | rule r | cls r =>
      obtain rfl := ha
      obtain rfl := hb
      exact beq_self_eq_true r
    | callable id =>
      obtain ⟨n, rfl⟩ := ha
      obtain ⟨m, rfl⟩ := hb
      exact beq_self_eq_true id

mutual

/-- Two keys are equal when they have one canonical key. -/
theorem equals_iff (a b : Value) (ha : a.isKey = true) (hb : b.isKey = true) :
    equals a b = .ok true ↔ Agree a.key? b.key? := by
  rw [equals.eq_def]
  split
  · exact ⟨fun _ ↦ ⟨_, rfl, rfl⟩, fun _ ↦ rfl⟩
  · simp [key?, agree_some]
  · simp [key?, agree_some]
  · simp [key?, agree_some, Moment.same_iff]
  · cases ha
  · rename_i xs ys
    rw [key?, key?, agree_map fun _ _ h ↦ Key.tuple.inj h]
    exact equalItems_iff xs ys ha hb
  · cases ha
  · cases ha
  · rename_i hnull htext hbytes hmoment _ htuple _ _
    split
    · rename_i h
      obtain ⟨hna, hnb⟩ := Bool.and_eq_true_iff.mp h
      rw [key?_of_isNumeric hna, key?_of_isNumeric hnb, agree_map fun _ _ h ↦ Key.number.inj h]
      exact equalNumbers_iff (isSignalling_of_isKey ha) (isSignalling_of_isKey hb)
    · rename_i h
      rw [Except.ok.injEq]
      exact isSameCallable_iff h hnull htext hbytes hmoment htuple
termination_by sizeOf a

/-- Two lists of keys have equal items when they have one list of canonical keys. -/
theorem equalItems_iff (xs ys : List Value) (hx : areKeys xs = true) (hy : areKeys ys = true) :
    equalItems xs ys = .ok true ↔ Agree (keys? xs) (keys? ys) := by
  match xs, ys with
  | [], [] => simp [equalItems, keys?, agree_some]
  | [], y :: ys => simpa [equalItems, keys?] using not_agree_nil_cons
  | x :: xs, [] => simpa [equalItems, keys?] using mt agree_comm.mp not_agree_nil_cons
  | x :: xs, y :: ys =>
    rw [areKeys, Bool.and_eq_true] at hx hy
    rw [keys?, keys?, agree_cons, ← equals_iff x y hx.1 hy.1, ← equalItems_iff xs ys hx.2 hy.2,
      equalItems]
    cases equals x y with
    | error f => exact ⟨nofun, fun h ↦ nomatch h.1⟩
    | ok same =>
      cases same with
      | false => exact ⟨nofun, fun h ↦ nomatch h.1⟩
      | true => exact ⟨fun h ↦ ⟨rfl, h⟩, fun h ↦ h.2⟩
termination_by sizeOf xs

end

/-! ## The same key -/

variable {a b c : Value}

/-- **Two keys are the same when they have one canonical key.** -/
theorem sameKey_iff (ha : a.isKey = true) (hb : b.isKey = true) :
    sameKey a b = true ↔ Agree a.key? b.key? := by
  rw [← equals_iff a b ha hb, sameKey]
  cases equals a b with
  | error f => exact ⟨nofun, nofun⟩
  | ok same => rw [Except.ok.injEq]

theorem sameKey_comm (ha : a.isKey = true) (hb : b.isKey = true) : sameKey a b = sameKey b a := by
  rw [Bool.eq_iff_iff, sameKey_iff ha hb, sameKey_iff hb ha, agree_comm]

/-- Of keys that are the same, each is the same as what the other is the same as. -/
theorem sameKey_congr (ha : a.isKey = true) (hb : b.isKey = true) (hc : c.isKey = true)
    (h : sameKey a b = true) : sameKey a c = sameKey b c := by
  obtain ⟨k, hak, hbk⟩ := (sameKey_iff ha hb).mp h
  rw [Bool.eq_iff_iff, sameKey_iff ha hc, sameKey_iff hb hc, hak, hbk]

theorem sameKey_trans (ha : a.isKey = true) (hb : b.isKey = true) (hc : c.isKey = true)
    (h : sameKey a b = true) (g : sameKey b c = true) : sameKey a c = true :=
  (sameKey_congr ha hb hc h).trans g

/-! ## Texts as keys -/

theorem sameKey_text_iff (v : Value) (s : String) :
    sameKey v (.text s) = true ↔ v = .text s := by
  cases v <;> simp [sameKey, equals, isNumeric, isSameCallable]

theorem text_sameKey_iff (s : String) (v : Value) :
    sameKey (.text s) v = true ↔ v = .text s := by
  cases v with
  | text t => exact (sameKey_text_iff (.text s) t).trans eq_comm
  | _ => simp [sameKey, equals, isNumeric, isSameCallable]

end Value
end Rulebook
