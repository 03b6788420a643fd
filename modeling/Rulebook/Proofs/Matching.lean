import Rulebook.Pattern.Match
import Mathlib.Computability.Language

/-!
# What patterns match

`Pattern.Reads` says of a pattern that it matches the texts of a language: wherever it is tried, it can be
gone on from behind every such text that stands there, and from nowhere else.  This is a statement about
whether there is a way to match, so that greed and the order of alternatives do not show in it, and it is
put together along the pattern: a sequence reads the product of two languages (`Pattern.Reads.seq`), an
alternative their sum (`Pattern.Reads.alt`), and a repetition the powers of one (`Pattern.Reads.repeated`).

A pattern that begins and ends with anchors then matches a text as a whole
(`Pattern.Finishes.matchesStart_iff`).  But the anchor for the end of the last line also holds before a line
feed that ends the text, and so the text may have one line feed more than the language says.
-/

set_option autoImplicit false

namespace Rulebook
namespace Pattern

variable {p q : Pattern} {L M : Language Char} {k : Goal} {s : Place} {P Q : Place → Prop}
  {u v : List Char} {f : Char → Prop}

/-! ## Texts that lead from place to place -/

namespace Place

theorem forward_forward (s : Place) (m n : Nat) : (s.forward m).forward n = s.forward (m + n) := by
  simp [forward, List.take_add, List.drop_drop, Nat.add_assoc]

theorem forward_zero (s : Place) : s.forward 0 = s := by
  simp [forward]

theorem rest_forward (h : s.rest = u ++ v) : (s.forward u.length).rest = v := by
  simp [forward, h]

end Place

/-- From a place a text of a language leads to a place that satisfies a condition. -/
def Leads (L : Language Char) (P : Place → Prop) (s : Place) : Prop :=
  ∃ u ∈ L, ∃ v, s.rest = u ++ v ∧ P (s.forward u.length)

theorem leads_one : Leads 1 P s ↔ P s := by
  simp [Leads, Language.mem_one, Place.forward_zero]

theorem leads_add : Leads (L + M) P s ↔ Leads L P s ∨ Leads M P s := by
  simp only [Leads, Language.mem_add, or_and_right, exists_or]

/-- A text that is put together from two leads over the place between them. -/
theorem leads_mul : Leads (L * M) P s ↔ Leads L (Leads M P) s := by
  constructor
  · rintro ⟨w, hw, v, hrest, h⟩
    obtain ⟨u, hu, u', hu', rfl⟩ := Language.mem_mul.mp hw
    rw [List.append_assoc] at hrest
    refine ⟨u, hu, u' ++ v, hrest, u', hu', v, Place.rest_forward hrest, ?_⟩
    rwa [Place.forward_forward, ← List.length_append]
  · rintro ⟨u, hu, r, hrest, u', hu', v, hr, h⟩
    rw [Place.rest_forward hrest] at hr
    rw [Place.forward_forward, ← List.length_append] at h
    exact ⟨u ++ u', Language.append_mem_mul hu hu', v, by rw [hrest, hr, List.append_assoc], h⟩

theorem leads_and_left {a : Prop} : Leads L (fun t ↦ a ∧ P t) s ↔ a ∧ Leads L P s := by
  simp only [Leads, and_left_comm, exists_and_left]

theorem leads_exists {R : Nat → Place → Prop} :
    Leads L (fun t ↦ ∃ n, R n t) s ↔ ∃ n, Leads L (R n) s := by
  constructor
  · rintro ⟨u, hu, v, hrest, n, h⟩
    exact ⟨n, u, hu, v, hrest, h⟩
  · rintro ⟨n, u, hu, v, hrest, h⟩
    exact ⟨u, hu, v, hrest, n, h⟩

theorem leads_congr
    (h : ∀ u ∈ L, ∀ v, s.rest = u ++ v → (P (s.forward u.length) ↔ Q (s.forward u.length))) :
    Leads L P s ↔ Leads L Q s :=
  exists_congr fun u ↦ and_congr_right fun hu ↦ exists_congr fun v ↦ and_congr_right fun hv ↦ h u hu v hv

/-! ## Reading a language -/

/-- A pattern matches the texts of a language, wherever it is tried and whatever comes behind it. -/
def Reads (p : Pattern) (L : Language Char) : Prop :=
  ∀ k s, (run p k s).isSome = true ↔ Leads L (fun t ↦ (k t).isSome = true) s

/-- The texts of one character that satisfies a condition. -/
def oneOfThose (f : Char → Prop) : Language Char := {u | ∃ c, f c ∧ u = [c]}

theorem reads_char {set : CharSet} (hset : ∀ c, set.holds c = true ↔ f c) :
    (char set).Reads (oneOfThose f) := by
  intro k s
  rw [run]
  constructor
  · intro h
    split at h
    · rename_i c r hrest
      split at h
      · rename_i hc
        exact ⟨[c], ⟨c, (hset c).mp hc, rfl⟩, r, hrest, h⟩
      · cases h
    · cases h
  · rintro ⟨-, ⟨c, hc, rfl⟩, r, hrest, h⟩
    rw [List.singleton_append] at hrest
    simpa [hrest, (hset c).mpr hc] using h

/-- **One pattern after another** reads the texts that are put together from texts of both. -/
theorem Reads.seq (hp : p.Reads L) (hq : q.Reads M) : (seq p q).Reads (L * M) := by
  intro k s
  rw [run, hp, leads_mul]
  simp only [hq k]

/-- **Of two alternatives** either may be read. -/
theorem Reads.alt (hp : p.Reads L) (hq : q.Reads M) : (alt p q).Reads (L + M) := by
  intro k s
  have hor : (run (.alt p q) k s).isSome = true ↔
      (run p k s).isSome = true ∨ (run q k s).isSome = true := by
    rw [run]
    cases run p k s <;> simp
  rw [hor, hp, hq, leads_add]

/-! ## Repetitions -/

variable {least count : Nat} {most : Option Nat}

/-- What a repetition can still do after some rounds: some more of them, as many as are required and no
more than are allowed, and then what comes behind. -/
def RoundsLeft (L : Language Char) (least : Nat) (most : Option Nat) (k : Goal) (count n : Nat)
    (s : Place) : Prop :=
  least ≤ count + n ∧ (∀ m ∈ most, count + n ≤ m) ∧ Leads (L ^ n) (fun t ↦ (k t).isSome = true) s

theorem roundsLeft_zero_iff : RoundsLeft L least most k count 0 s ↔
    least ≤ count ∧ (∀ m ∈ most, count ≤ m) ∧ (k s).isSome = true := by
  simp only [RoundsLeft, pow_zero, leads_one, Nat.add_zero]

/-- One round more, and then as many as are left. -/
theorem roundsLeft_succ_iff {n : Nat} : RoundsLeft L least most k count (n + 1) s ↔
    Leads L (RoundsLeft L least most k (count + 1) n) s := by
  have hcount : count + (n + 1) = count + 1 + n := by omega
  have hround : RoundsLeft L least most k (count + 1) n = fun t ↦ least ≤ count + 1 + n ∧
      (∀ m ∈ most, count + 1 + n ≤ m) ∧ Leads (L ^ n) (fun t ↦ (k t).isSome = true) t := rfl
  rw [RoundsLeft, pow_succ', leads_mul, hcount, hround, leads_and_left, leads_and_left]

theorem mayRepeat_iff : mayRepeat most count = true ↔ ∀ m ∈ most, count + 1 ≤ m := by
  cases most with
  | none => exact iff_of_true rfl nofun
  | some m => exact decide_eq_true_iff.trans ⟨fun h _ hm ↦ Option.some.inj hm ▸ h, fun h ↦ h m rfl⟩

/-- **The rounds of a greedy repetition** find a way whenever some number of rounds has one.  Every round
reads something, so that there are never more rounds than characters, and no round is the last one
because it read nothing. -/
theorem greedyRounds_isSome_iff (hp : p.Reads L) (hne : [] ∉ L) (hle : ∀ m ∈ most, least ≤ m)
    (k : Goal) (fuel count : Nat) (last : Option Nat) (s : Place) (hfuel : s.rest.length < fuel)
    (hlast : ∀ o ∈ last, o < s.offset) (hcount : ∀ m ∈ most, count ≤ m) :
    (greedyRounds (run p) least most k fuel count last s).isSome = true ↔
      ∃ n, RoundsLeft L least most k count n s := by
  induction fuel generalizing count last s with
  | zero => omega
  | succ fuel ih =>
    -- A further round, whatever is noted of where it began.
    have hround : ∀ last' : Option Nat, (∀ o ∈ last', o ≤ s.offset) → (∀ m ∈ most, count + 1 ≤ m) →
        ((run p (greedyRounds (run p) least most k fuel (count + 1) last') s).isSome = true ↔
          ∃ n, RoundsLeft L least most k count (n + 1) s) := by
      intro last' hlast' hcount'
      simp only [hp _ s, roundsLeft_succ_iff, ← leads_exists]
      refine leads_congr fun u hu v hrest ↦ ?_
      have hpos : 0 < u.length := List.length_pos_iff.mpr fun h ↦ hne (h ▸ hu)
      refine ih (count + 1) last' _ ?_ (fun o ho ↦ ?_) hcount'
      · rw [Place.rest_forward hrest]
        rw [hrest, List.length_append] at hfuel
        omega
      · have := hlast' o ho
        show o < s.offset + u.length
        omega
    rw [greedyRounds]
    split
    · -- This round is required, and so it is allowed.
      rename_i hrequired
      rw [hround last (fun o ho ↦ (hlast o ho).le) fun m hm ↦ lt_of_lt_of_le hrequired (hle m hm)]
      refine ⟨fun ⟨n, h⟩ ↦ ⟨n + 1, h⟩, fun ⟨n, h⟩ ↦ ?_⟩
      match n, h with
      | 0, h => exact absurd h.1 (by omega)
      | n + 1, h => exact ⟨n, h⟩
    · rename_i hrequired
      have hstop : RoundsLeft L least most k count 0 s ↔ (k s).isSome = true := by
        rw [roundsLeft_zero_iff]
        exact ⟨fun h ↦ h.2.2, fun h ↦ ⟨by omega, hcount, h⟩⟩
      have hnew : (last != some s.offset) = true :=
        bne_iff_ne.mpr fun h ↦ (hlast s.offset h).false
      rw [hnew, Bool.and_true]
      split
      · rename_i hmay
        have hmore := hround (some s.offset) (by simp) (mayRepeat_iff.mp hmay)
        rw [← Nat.or_exists_add_one, hstop, ← hmore, or_comm]
        split <;> simp [*]
      · rename_i hmay
        rw [← hstop]
        refine ⟨fun h ↦ ⟨0, h⟩, fun ⟨n, h⟩ ↦ ?_⟩
        match n, h with
        | 0, h => exact h
        | n + 1, h => exact absurd (mayRepeat_iff.mpr fun m hm ↦ by have := h.2.1 m hm; omega) hmay

/-- The texts of a language put one after another, as many as two bounds allow. -/
def several (L : Language Char) (least : Nat) (most : Option Nat) : Language Char :=
  {u | ∃ n, least ≤ n ∧ (∀ m ∈ most, n ≤ m) ∧ u ∈ L ^ n}

/-- **A repetition** of what reads no empty text reads as many texts as it allows. -/
theorem Reads.repeated (hp : p.Reads L) (hne : [] ∉ L) (hle : ∀ m ∈ most, least ≤ m) :
    (repeated .greedy least most p).Reads (several L least most) := by
  intro k s
  have hfuel : s.rest.length < roundLimit least s := by
    rw [roundLimit]
    omega
  rw [run, greedyRounds_isSome_iff hp hne hle k _ 0 none s hfuel (by simp) (by simp)]
  simp only [RoundsLeft, Nat.zero_add]
  constructor
  · rintro ⟨n, hleast, hmost, u, hu, h⟩
    exact ⟨u, ⟨n, hleast, hmost, hu⟩, h⟩
  · rintro ⟨u, ⟨n, hleast, hmost, hu⟩, h⟩
    exact ⟨n, hleast, hmost, u, hu, h⟩

/-! ## Stretches of characters -/

/-- One character that satisfies a condition, and then a text of a language. -/
theorem mem_oneOfThose_mul : u ∈ oneOfThose f * L ↔ ∃ c, f c ∧ ∃ v ∈ L, u = c :: v := by
  rw [Language.mem_mul]
  constructor
  · rintro ⟨-, ⟨c, hc, rfl⟩, v, hv, rfl⟩
    exact ⟨c, hc, v, hv, rfl⟩
  · rintro ⟨c, hc, v, hv, rfl⟩
    exact ⟨[c], ⟨c, hc, rfl⟩, v, hv, rfl⟩

/-- Texts of two languages on both sides of a character. -/
theorem mem_parted {d : Char} : u ∈ L * ((oneOfThose fun c ↦ c = d) * M) ↔
    ∃ v ∈ L, ∃ w ∈ M, v ++ d :: w = u := by
  rw [Language.mem_mul]
  simp only [mem_oneOfThose_mul, exists_eq_left]
  constructor
  · rintro ⟨v, hv, -, ⟨w, hw, rfl⟩, rfl⟩
    exact ⟨v, hv, w, hw, rfl⟩
  · rintro ⟨v, hv, w, hw, rfl⟩
    exact ⟨v, hv, _, ⟨w, hw, rfl⟩, rfl⟩

theorem mem_oneOfThose_pow {n : Nat} : u ∈ oneOfThose f ^ n ↔ u.length = n ∧ ∀ c ∈ u, f c := by
  induction n generalizing u with
  | zero => simp +contextual [Language.mem_one, List.length_eq_zero_iff]
  | succ n ih =>
    rw [pow_succ', mem_oneOfThose_mul]
    constructor
    · rintro ⟨c, hc, r, hr, rfl⟩
      obtain ⟨hlength, hall⟩ := ih.mp hr
      exact ⟨by simp [hlength], by simpa using ⟨hc, hall⟩⟩
    · rintro ⟨hlength, hall⟩
      obtain ⟨c, r, rfl⟩ := List.exists_cons_of_length_eq_add_one hlength
      obtain ⟨hc, hr⟩ := List.forall_mem_cons.mp hall
      exact ⟨c, hc, r, ih.mpr ⟨by simpa using hlength, hr⟩, rfl⟩

/-- The texts of characters that satisfy a condition, with a length between two bounds. -/
def stretch (f : Char → Prop) (least : Nat) (most : Option Nat) : Language Char :=
  {u | least ≤ u.length ∧ (∀ m ∈ most, u.length ≤ m) ∧ ∀ c ∈ u, f c}

theorem mem_stretch :
    u ∈ stretch f least most ↔ least ≤ u.length ∧ (∀ m ∈ most, u.length ≤ m) ∧ ∀ c ∈ u, f c := Iff.rfl

theorem several_oneOfThose (f : Char → Prop) :
    several (oneOfThose f) least most = stretch f least most := by
  ext u
  constructor
  · rintro ⟨n, hleast, hmost, hu⟩
    obtain ⟨rfl, hall⟩ := mem_oneOfThose_pow.mp hu
    exact ⟨hleast, hmost, hall⟩
  · rintro ⟨hleast, hmost, hall⟩
    exact ⟨u.length, hleast, hmost, mem_oneOfThose_pow.mpr ⟨rfl, hall⟩⟩

/-- Repeating a set of characters reads a stretch of them. -/
theorem reads_stretch {set : CharSet} (hset : ∀ c, set.holds c = true ↔ f c)
    (hle : ∀ m ∈ most, least ≤ m) :
    (repeated .greedy least most (char set)).Reads (stretch f least most) :=
  several_oneOfThose f ▸ (reads_char hset).repeated (fun ⟨_, _, h⟩ ↦ nomatch h) hle

/-! ## Whole texts -/

/-- At the end of the text, or before a line feed that ends it. -/
def Place.IsLast (s : Place) : Prop := s.rest = [] ∨ s.rest = ['\n']

/-- A pattern matches the rest of a text, one line feed at its end apart, exactly if that is in a
language. -/
def Finishes (p : Pattern) (L : Language Char) : Prop :=
  ∀ s, (run p some s).isSome = true ↔ Leads L Place.IsLast s

theorem finishes_lastLineEnd : (anchor .lastLineEnd).Finishes 1 := by
  intro s
  rw [run, leads_one]
  simp [Anchor.holds, Place.IsLast]

/-- What reads a language, before what finishes one. -/
theorem Reads.finishes (hp : p.Reads L) (hq : q.Finishes M) : (Pattern.seq p q).Finishes (L * M) := by
  intro s
  rw [run, hp, leads_mul]
  exact leads_congr fun u _ v _ ↦ hq _

/-- **A pattern between anchors** matches the texts of a language, and each of them with a line feed
behind it. -/
theorem Finishes.matchesStart_iff (hp : p.Finishes L) {text : String} :
    (seq (anchor .textStart) p).matchesStart text = true ↔
      ∃ u ∈ L, text.toList = u ∨ text.toList = u ++ ['\n'] := by
  refine (hp (.start text.toList)).trans (exists_congr fun u ↦ and_congr_right fun _ ↦ ?_)
  constructor
  · rintro ⟨v, hrest, hlast⟩
    have htext : text.toList = u ++ v := hrest
    rw [Place.IsLast, Place.rest_forward hrest] at hlast
    rcases hlast with rfl | rfl
    · exact .inl (by rw [htext, List.append_nil])
    · exact .inr htext
  · rintro (rfl | h)
    · exact ⟨[], (List.append_nil _).symm, .inl (Place.rest_forward (List.append_nil _).symm)⟩
    · exact ⟨['\n'], h, .inr (Place.rest_forward h)⟩

end Pattern
end Rulebook
