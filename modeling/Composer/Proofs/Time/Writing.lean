import Composer.Proofs.Text.Reading
import Composer.Proofs.Text.Trimming
import Composer.Proofs.Time.Calendar
set_option autoImplicit false

/-!
# Instants are read as they were written

Every field of a written instant has as many digits as its reader takes, or ends before something
else than a digit. The date is that of a valid day, so reading finds nothing out of range, and the
days and the seconds add up to the instant again.
-/

namespace Composer

namespace Numeral

/-! ## Padded numbers -/

theorem length_digits_le {width n : Nat} (hwidth : 0 < width) (hn : n < Nat.pow 10 width) :
    (digits n).length ≤ width := by
  induction width generalizing n with
  | zero => cases hwidth
  | succ width ih =>
    rw [digits]
    split
    · exact hwidth
    next hten =>
      have hpow : Nat.pow 10 (width + 1) = Nat.pow 10 width * 10 := rfl
      have hpos : 0 < width := by
        rcases Nat.eq_zero_or_pos width with rfl | hpos
        · exact absurd hn (by simpa using hten)
        · exact hpos
      have hfewer : n / 10 < Nat.pow 10 width := by omega
      rw [List.length_append, List.length_singleton]
      exact Nat.succ_le_succ (ih hpos hfewer)

theorem length_padded {width n : Nat} (hwidth : 0 < width) (hn : n < Nat.pow 10 width) :
    (padded width n).length = width := by
  have hle := length_digits_le hwidth hn
  rw [padded, List.length_append, List.length_replicate]
  omega

theorem padded_ne_nil (width n : Nat) : padded width n ≠ [] := by
  obtain ⟨c, cs, hdigits, -⟩ := exists_digits_eq_cons n
  rw [padded, hdigits]
  exact List.append_ne_nil_of_right_ne_nil _ (List.cons_ne_nil c cs)

theorem isDigit_of_mem_padded {width n : Nat} : ∀ c ∈ padded width n, isDigit c = true := by
  intro c hc
  rw [padded, List.mem_append] at hc
  obtain hzero | hdigit := hc
  · rw [(List.mem_replicate.mp hzero).2]
    decide
  · exact isDigit_of_mem_digits n c hdigit

theorem ofDigits_padded (width n : Nat) : ofDigits (padded width n) = n := by
  have hzeros : ∀ k, (List.replicate k '0').foldl (fun n d => n * 10 + digitValue d) 0 = 0 := by
    intro k
    induction k with
    | zero => rfl
    | succ k ih =>
      rw [List.replicate_succ, List.foldl_cons]
      exact ih
  have hdigits := ofDigits_digits n
  rw [ofDigits] at hdigits ⊢
  rw [padded, List.foldl_append, hzeros, hdigits]

end Numeral

namespace Instant

/-! ## Fields -/

theorem trimStart_cons {c : Char} (h : Chars.isSpace c = false) (cs : List Char) :
    Chars.trimStart (c :: cs) = c :: cs := by
  rw [Chars.trimStart, List.dropWhile_cons_of_neg (by simp [h])]

/-- No digit follows. -/
def EndsDigits (rest : List Char) : Prop := Chars.Stops Numeral.isDigit rest

theorem endsDigits_cons {c : Char} (h : Numeral.isDigit c = false) (rest : List Char) :
    EndsDigits (c :: rest) := Chars.stops_cons h rest

/-- Digits are read as far as the width allows, or up to something else. -/
theorem digitsUpTo_append {width : Nat} {ds rest : List Char}
    (hds : ∀ d ∈ ds, Numeral.isDigit d = true) (hne : ds ≠ []) (hlength : ds.length ≤ width)
    (hrest : EndsDigits rest) (hsize : Numeral.ofDigits ds ≤ Numeral.maxSigned) :
    digitsUpTo width (ds ++ rest) = .ok (Numeral.ofDigits ds, rest) := by
  have htaken : ((ds ++ rest).take width).takeWhile Numeral.isDigit = ds := by
    rw [List.take_append, List.take_of_length_le hlength]
    exact (hrest.take _).takeWhile_append hds
  have hempty : ds.isEmpty = false := by simpa using hne
  rw [digitsUpTo, htaken, hempty]
  simp only [Bool.false_eq_true, if_false, if_pos hsize, List.drop_left]

theorem digitsUpTo_padded {width limit n : Nat} {rest : List Char}
    (hlength : (Numeral.padded width n).length ≤ limit) (hrest : EndsDigits rest)
    (hsize : n ≤ Numeral.maxSigned) :
    digitsUpTo limit (Numeral.padded width n ++ rest) = .ok (n, rest) := by
  have hvalue := Numeral.ofDigits_padded width n
  rw [digitsUpTo_append Numeral.isDigit_of_mem_padded (Numeral.padded_ne_nil width n) hlength hrest
    (by rw [hvalue]; exact hsize), hvalue]

/-- A number begins with a digit, which is no white space. -/
theorem exists_padded_eq_cons (width n : Nat) :
    ∃ c cs, Numeral.padded width n = c :: cs ∧ Numeral.isDigit c = true := by
  obtain ⟨c, cs, hpadded⟩ := List.exists_cons_of_ne_nil (Numeral.padded_ne_nil width n)
  exact ⟨c, cs, hpadded, Numeral.isDigit_of_mem_padded c (hpadded ▸ List.mem_cons_self)⟩

theorem trimStart_padded (width n : Nat) (rest : List Char) :
    Chars.trimStart (Numeral.padded width n ++ rest) = Numeral.padded width n ++ rest := by
  obtain ⟨c, cs, hpadded, hdigit⟩ := exists_padded_eq_cons width n
  rw [hpadded, List.cons_append]
  exact trimStart_cons (Chars.not_isSpace_of_isDigit hdigit) _

/-- A field of two digits is read within its range. -/
theorem field_padded {low high n : Nat} {rest : List Char} (hlow : low ≤ n) (hhigh : n ≤ high)
    (hn : n < 100) (hrest : EndsDigits rest) :
    field 2 low high (Numeral.padded 2 n ++ rest) = .ok (n, rest) := by
  have hlength : (Numeral.padded 2 n).length ≤ 2 :=
    Nat.le_of_eq (Numeral.length_padded (by decide) hn)
  have hsize : n ≤ Numeral.maxSigned := by
    rw [Numeral.maxSigned]
    omega
  rw [field, trimStart_padded, digitsUpTo_padded hlength hrest hsize]
  dsimp only
  rw [if_pos ⟨hlow, hhigh⟩]

/-! ## Years -/

theorem year_yearText {y : Int} (hlow : firstYear ≤ y) (hhigh : y ≤ lastYear) {rest : List Char}
    (hrest : EndsDigits rest) : year (yearText y ++ rest) = .ok (y, rest) := by
  have hfirst : firstYear = -262143 := rfl
  have hlast : lastYear = 262142 := rfl
  have hwritten : maxWrittenYear = 2147483647 := rfl
  have hsize : y.natAbs ≤ Numeral.maxSigned := by
    rw [Numeral.maxSigned]
    omega
  have hrange : -(maxWrittenYear : Int) - 1 ≤ y ∧ y ≤ maxWrittenYear := by
    omega
  have hlong : (Numeral.padded 4 y.natAbs).length ≤ (Numeral.padded 4 y.natAbs ++ rest).length := by
    rw [List.length_append]
    exact Nat.le_add_right _ _
  by_cases hfour : 0 ≤ y ∧ y ≤ 9999
  · have hvalue : 1 * (y.toNat : Int) = y := by omega
    have hshort : (Numeral.padded 4 y.toNat).length ≤ 4 :=
      Nat.le_of_eq (Numeral.length_padded (by decide) (show y.toNat < 10000 by omega))
    have hread := digitsUpTo_padded hshort hrest (show y.toNat ≤ Numeral.maxSigned by omega)
    obtain ⟨c, cs, hpadded, hdigit⟩ := exists_padded_eq_cons 4 y.toNat
    rw [yearText, if_pos hfour, year, trimStart_padded]
    rw [hpadded, List.cons_append] at hread ⊢
    split
    next sign part heq =>
      split at heq
      next hcons =>
        rw [(List.cons.inj hcons).1] at hdigit
        cases hdigit
      next hcons =>
        rw [(List.cons.inj hcons).1] at hdigit
        cases hdigit
      next =>
        cases heq
        simp only [hread, hvalue, if_pos hrange]
  · by_cases hneg : y < 0
    · have hvalue : -1 * (y.natAbs : Int) = y := by omega
      rw [yearText, if_neg hfour, if_pos hneg, List.cons_append, year,
        trimStart_cons (by decide)]
      simp only [digitsUpTo_padded hlong hrest hsize, hvalue, if_pos hrange]
    · have hvalue : 1 * (y.natAbs : Int) = y := by omega
      rw [yearText, if_neg hfour, if_neg hneg, List.cons_append, year,
        trimStart_cons (by decide)]
      simp only [digitsUpTo_padded hlong hrest hsize, hvalue, if_pos hrange]

/-! ## Fractions -/

theorem fraction_padded (width m : Nat) (hwidth : 0 < width) (hle : width ≤ 9)
    (hm : m < Nat.pow 10 width) (rest : List Char) :
    fraction ('.' :: (Numeral.padded width m ++ 'Z' :: rest)) =
      .ok (m * Nat.pow 10 (9 - width), 'Z' :: rest) := by
  have hlength := Numeral.length_padded hwidth hm
  have hpow : Nat.pow 10 width ≤ Nat.pow 10 9 := Nat.pow_le_pow_right (by decide) hle
  have hnine : Nat.pow 10 9 = 1000000000 := rfl
  have hsize : m ≤ Numeral.maxSigned := by
    rw [Numeral.maxSigned]
    omega
  have hread : digitsUpTo 9 (Numeral.padded width m ++ 'Z' :: rest) = .ok (m, 'Z' :: rest) :=
    digitsUpTo_padded (by rwa [hlength]) (endsDigits_cons (by decide) rest) hsize
  have hcount : (Numeral.padded width m ++ 'Z' :: rest).length - ('Z' :: rest).length = width := by
    rw [List.length_append, hlength, Nat.add_sub_cancel]
  have hstop : ('Z' :: rest).dropWhile Numeral.isDigit = 'Z' :: rest :=
    List.dropWhile_cons_of_neg (by decide)
  rw [fraction, hread]
  simp only [bind, Except.bind, hcount, hstop]
  rfl

/-- The fraction is read as it was written, in whichever groups of digits. -/
theorem fraction_fractionText {nanos : Nat} (hnanos : nanos < 1000000000) (rest : List Char) :
    fraction (fractionText nanos ++ 'Z' :: rest) = .ok (nanos, 'Z' :: rest) := by
  unfold fractionText
  split
  case isTrue hzero =>
    rw [hzero]
    rfl
  split
  case isTrue hthree =>
    have hread := fraction_padded 3 (nanos / 1000000) (by decide) (by decide)
      (show nanos / 1000000 < 1000 by omega) rest
    have hvalue : nanos / 1000000 * Nat.pow 10 (9 - 3) = nanos := by
      change nanos / 1000000 * 1000000 = nanos
      omega
    rw [List.cons_append, hread, hvalue]
  split
  case isTrue hsix =>
    have hread := fraction_padded 6 (nanos / 1000) (by decide) (by decide)
      (show nanos / 1000 < 1000000 by omega) rest
    have hvalue : nanos / 1000 * Nat.pow 10 (9 - 6) = nanos := by
      change nanos / 1000 * 1000 = nanos
      omega
    rw [List.cons_append, hread, hvalue]
  case isFalse =>
    have hread := fraction_padded 9 nanos (by decide) (by decide) hnanos rest
    rw [List.cons_append, hread]
    exact congrArg Except.ok (congrArg (·, 'Z' :: rest) (Nat.mul_one nanos))

/-! ## Whole instants -/

/-- Behind the seconds comes a point or the mark of universal time. -/
theorem endsDigits_fractionText (nanos : Nat) : EndsDigits (fractionText nanos ++ ['Z']) := by
  unfold fractionText
  split
  · exact endsDigits_cons (by decide) _
  split
  · exact endsDigits_cons (by decide) _
  split
  · exact endsDigits_cons (by decide) _
  · exact endsDigits_cons (by decide) _

/-- Fields within their ranges, one behind the other, are read as the instant that they denote. -/
theorem read_fields {y : Int} {month day hour minute second nanos : Nat}
    (hyear : firstYear ≤ y ∧ y ≤ lastYear) (hmonth : 1 ≤ month ∧ month ≤ 12)
    (hday : 1 ≤ day ∧ day ≤ 31) (hlength : day ≤ daysInMonth y month) (hhour : hour ≤ 23)
    (hminute : minute ≤ 59) (hsecond : second ≤ 60) (hnanos : nanos < 1000000000)
    (seconds : Int) (hseconds : seconds = daysOf y month day * 86400 +
      (hour * 3600 + minute * 60 + min second 59 : Nat)) (hsupported : isSupported seconds = true) :
    read (yearText y ++ '-' :: (Numeral.padded 2 month ++ '-' :: (Numeral.padded 2 day ++
      'T' :: (Numeral.padded 2 hour ++ ':' :: (Numeral.padded 2 minute ++
        ':' :: (Numeral.padded 2 second ++ (fractionText nanos ++ ['Z']))))))) =
      .ok { seconds, nanos := if second = 60 then nanos + 1000000000 else nanos } := by
  have hminus : ∀ rest, literal '-' (Chars.trimStart ('-' :: rest)) = .ok rest := fun _ => rfl
  have hcolon : ∀ rest, literal ':' (Chars.trimStart (':' :: rest)) = .ok rest := fun _ => rfl
  have hends : ∀ {c : Char}, Numeral.isDigit c = false → ∀ rest, EndsDigits (c :: rest) :=
    fun hc rest => endsDigits_cons hc rest
  have hfraction := endsDigits_fractionText nanos
  have hzone : zone (Chars.trimStart ['Z']) = .ok (0, []) := rfl
  have hend : ¬ (!(Chars.trimStart ([] : List Char)).isEmpty) = true := by decide
  have hrange : ¬ (y < firstYear ∨ lastYear < y ∨ daysInMonth y month < day ∨
      86400 ≤ (0 : Int).natAbs) := by
    simp only [Int.natAbs_zero]
    omega
  rw [read, year_yearText hyear.1 hyear.2 (hends (by decide) _)]
  simp only [bind, Except.bind, hminus]
  rw [field_padded hmonth.1 hmonth.2 (by omega) (hends (by decide) _)]
  simp only [hminus]
  rw [field_padded hday.1 hday.2 (by omega) (hends (by decide) _)]
  simp only [true_or, if_true]
  rw [field_padded (Nat.zero_le _) hhour (by omega) (hends (by decide) _)]
  simp only [hcolon]
  rw [field_padded (Nat.zero_le _) hminute (by omega) (hends (by decide) _)]
  simp only [hcolon]
  rw [field_padded (Nat.zero_le _) hsecond (by omega) hfraction]
  simp only [fraction_fractionText hnanos, hzone, if_neg hend, if_neg hrange, Int.sub_zero]
  rw [← hseconds, if_pos hsupported]
  rfl

/-- An instant that can be written: it lies in a supported year, and in a leap second only at the
end of a minute. -/
structure IsWritable (t : Instant) : Prop where
  supported : isSupported t.seconds = true
  nanos_lt : t.nanos < 2000000000
  leap : 1000000000 ≤ t.nanos → t.seconds % 60 = 59

/-- The supported seconds are those of the supported years. -/
theorem isSupported_iff {seconds : Int} {d : Date} (hvalid : d.IsValid)
    (hdays : d.days = seconds / 86400) :
    isSupported seconds = true ↔ firstYear ≤ d.civilYear ∧ d.civilYear ≤ lastYear := by
  have hfirst := le_civilYear_iff hvalid firstYear
  have hlast := le_civilYear_iff hvalid (lastYear + 1)
  simp only [isSupported, Bool.and_eq_true, decide_eq_true_eq]
  constructor
  · rintro ⟨hafter, hbefore⟩
    refine ⟨hfirst.mpr (by omega), ?_⟩
    have hnot := mt hlast.mp (by omega)
    omega
  · rintro ⟨hafter, hbefore⟩
    have hlow := hfirst.mp hafter
    have hnot := mt hlast.mpr (by omega)
    omega

/-- An instant of the years 0 to 9999 that does not lie in a leap second. -/
structure IsOrdinary (t : Instant) : Prop where
  year_nonneg : 0 ≤ (dateOf (t.seconds.fdiv 86400)).1
  year_le : (dateOf (t.seconds.fdiv 86400)).1 ≤ 9999
  nanos_lt : t.nanos < 1000000000

theorem IsOrdinary.isWritable {t : Instant} (h : t.IsOrdinary) : t.IsWritable := by
  obtain ⟨hlow, hhigh, hnanos⟩ := h
  obtain ⟨d, hvalid, hdays, hdate⟩ := exists_date (t.seconds / 86400)
  have hfdiv : t.seconds.fdiv 86400 = t.seconds / 86400 :=
    Int.fdiv_eq_ediv_of_nonneg _ (by decide)
  rw [hfdiv, hdate] at hlow hhigh
  have hfirst : firstYear = -262143 := rfl
  have hlast : lastYear = 262142 := rfl
  exact ⟨(isSupported_iff hvalid hdays).mpr ⟨by omega, by omega⟩, by omega, by omega⟩

/-- A written instant is read as it was. -/
theorem IsWritable.read_text {t : Instant} (h : t.IsWritable) : read t.text = .ok t := by
  obtain ⟨hsupported, hnanos, hleap⟩ := h
  have hfdiv : t.seconds.fdiv 86400 = t.seconds / 86400 :=
    Int.fdiv_eq_ediv_of_nonneg _ (by decide)
  obtain ⟨d, hvalid, hdays, hdate⟩ := exists_date (t.seconds / 86400)
  obtain ⟨-, -, hmonth, hday, -⟩ := month_bounds d.day hvalid.day_le
  have hyear := (isSupported_iff hvalid hdays).mp hsupported
  obtain ⟨second, hsecond⟩ : ∃ n : Nat, t.seconds - t.seconds / 86400 * 86400 = n :=
    ⟨_, (Int.toNat_of_nonneg (by omega)).symm⟩
  have hdaysOf : daysOf d.civilYear (monthOf d.day) (dayOfMonth d.day) = t.seconds / 86400 := by
    rw [hvalid.daysOf_eq, hdays]
  simp only [text, hfdiv, hdate, hsecond, Int.toNat_natCast, List.append_assoc, List.cons_append]
  by_cases hlong : 1000000000 ≤ t.nanos
  · have hlast := hleap hlong
    have hsixty : second % 60 + 1 = 60 := by omega
    rw [if_pos hlong, if_pos hlong, hsixty,
      read_fields hyear hmonth hday hvalid.dayOfMonth_le (by omega) (by omega) (Nat.le_refl 60)
        (by omega) t.seconds (by rw [hdaysOf]; omega) hsupported, if_pos rfl,
      Nat.sub_add_cancel hlong]
  · have hbelow : second % 60 + 0 ≤ 60 := by omega
    rw [if_neg hlong, if_neg hlong,
      read_fields hyear hmonth hday hvalid.dayOfMonth_le (by omega) (by omega) hbelow
        (by omega) t.seconds (by rw [hdaysOf]; omega) hsupported,
      if_neg (by omega)]

/-! ## What is read can be written -/

theorem ofDigits_lt {ds : List Char} (hds : ∀ d ∈ ds, Numeral.isDigit d = true) :
    Numeral.ofDigits ds < Nat.pow 10 ds.length := by
  induction ds using List.reverseRecOn with
  | nil => decide
  | append_singleton ds d ih =>
    have hd := Numeral.digitValue_le (hds d (List.mem_append_right _ (List.mem_singleton.mpr rfl)))
    have hbefore := ih fun c hc => hds c (List.mem_append_left _ hc)
    have hpow : Nat.pow 10 (ds ++ [d]).length = Nat.pow 10 ds.length * 10 := by
      rw [List.length_append, List.length_singleton]
      rfl
    rw [hpow]
    rw [Numeral.ofDigits] at hbefore ⊢
    rw [List.foldl_append, List.foldl_cons, List.foldl_nil]
    omega

/-- A number is read from the digits in front, which are no more than the width. -/
theorem digitsUpTo_spec {width n : Nat} {cs rest : List Char}
    (h : digitsUpTo width cs = .ok (n, rest)) :
    cs.length - rest.length ≤ width ∧ n < Nat.pow 10 (cs.length - rest.length) := by
  unfold digitsUpTo at h
  dsimp only at h
  generalize hds : (cs.take width).takeWhile Numeral.isDigit = ds at h
  have hlength : ds.length ≤ width ∧ ds.length ≤ cs.length := by
    have htaken := (List.takeWhile_sublist Numeral.isDigit (l := cs.take width)).length_le
    rw [hds, List.length_take] at htaken
    omega
  have hall : ∀ d ∈ ds, Numeral.isDigit d = true := by
    intro d hd
    exact List.mem_takeWhile_imp (hds ▸ hd)
  split at h
  · cases h
  · split at h
    · cases h
      rw [List.length_drop]
      have hcount : cs.length - (cs.length - ds.length) = ds.length := by omega
      rw [hcount]
      exact ⟨hlength.1, ofDigits_lt hall⟩
    · cases h

theorem field_le {width low high n : Nat} {cs rest : List Char}
    (h : field width low high cs = .ok (n, rest)) : n ≤ high := by
  unfold field at h
  split at h
  · split at h
    next hrange =>
      cases h
      exact hrange.2
    · cases h
  · cases h

theorem fraction_lt {cs rest : List Char} {nanos : Nat} (h : fraction cs = .ok (nanos, rest)) :
    nanos < 1000000000 := by
  unfold fraction at h
  split at h
  next cs =>
    simp only [bind_eq_ok_iff, Prod.exists] at h
    obtain ⟨n, behind, hread, h⟩ := h
    cases h
    obtain ⟨hcount, hn⟩ := digitsUpTo_spec hread
    have hjoin : ∀ k ≤ 9, Nat.pow 10 k * Nat.pow 10 (9 - k) = 1000000000 := by decide
    calc n * Nat.pow 10 (9 - (cs.length - behind.length))
        < Nat.pow 10 (cs.length - behind.length) *
            Nat.pow 10 (9 - (cs.length - behind.length)) :=
          Nat.mul_lt_mul_of_pos_right hn (Nat.pow_pos (by decide))
      _ = 1000000000 := hjoin _ hcount
  next =>
    cases h
    decide

/-- An offset is a number of whole minutes. -/
theorem offset_mod {cs rest : List Char} {shift : Int} (h : offset cs = .ok (shift, rest)) :
    shift % 60 = 0 := by
  unfold offset at h
  split at h
  · cases h
    rfl
  · cases h
    rfl
  · cases h
  · split at h
    · cases h
    · simp only [bind_eq_ok_iff, Prod.exists] at h
      obtain ⟨h₁, h₂, behind, -, m₁, m₂, after, -, h⟩ := h
      split at h
      · cases h
      · cases h
        split <;> omega

theorem zone_mod {cs rest : List Char} {shift : Int} (h : zone cs = .ok (shift, rest)) :
    shift % 60 = 0 := by
  unfold zone at h
  split at h
  · split at h
    · cases h
      rfl
    · exact offset_mod h
  · exact offset_mod h

/-- Every instant that is read can be written. -/
theorem isWritable_of_read {cs : List Char} {t : Instant} (h : read cs = .ok t) :
    t.IsWritable := by
  simp only [read, bind_eq_ok_iff, Prod.exists] at h
  obtain ⟨y, cs₁, -, cs₂, -, month, cs₃, -, cs₄, -, day, cs₅, -, h⟩ := h
  split at h
  · cases h
  split at h
  · simp only [bind_eq_ok_iff, Prod.exists] at h
    obtain ⟨cs₆, -, hour, cs₇, -, cs₈, -, minute, cs₉, -, cs₁₀, -, second, cs₁₁, hsecond, nanos,
      cs₁₂, hfraction, shift, cs₁₃, hzone, h⟩ := h
    have hnanos := fraction_lt hfraction
    have hshift := zone_mod hzone
    have hlast := field_le hsecond
    split at h
    · cases h
    split at h
    · cases h
    split at h
    next hsupported =>
      cases h
      refine ⟨hsupported, ?_, ?_⟩
      · dsimp only
        split <;> omega
      · intro hlong
        dsimp only at hlong ⊢
        have hsixty : second = 60 := by
          split at hlong
          · assumption
          · omega
        omega
    · cases h
  · cases h

end Instant
end Composer
