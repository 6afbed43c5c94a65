import DnsFilter.Proofs.Time.Rfc3339
/-!
# Stamps

The stamps of later times come later in the order of texts, up to the millisecond.
-/
namespace DnsFilter.Timestamp

/-- A time that is no later than another. -/
def NotAfter (t u : Timestamp) : Prop :=
  t.seconds < u.seconds ∨ t.seconds = u.seconds ∧ t.fraction ≤ u.fraction

instance (t u : Timestamp) : Decidable (t.NotAfter u) := inferInstanceAs (Decidable (_ ∨ _))

theorem NotAfter.refl (t : Timestamp) : t.NotAfter t := .inr ⟨rfl, Nat.le_refl _⟩

/-- Times of years with four digits, none of them before an earlier one. -/
structure IsClock (times : List Timestamp) : Prop where
  valid : ∀ t ∈ times, t.IsWellFormed ∧ t.HasFourDigitYear
  ordered : times.Pairwise NotAfter

theorem IsClock.sublist {times fewer : List Timestamp} (h : IsClock times)
    (hfewer : fewer.Sublist times) : IsClock fewer :=
  ⟨fun t ht => h.valid t (hfewer.subset ht), h.ordered.sublist hfewer⟩

theorem isClock_of_all_eq {t : Timestamp} (ht : t.IsWellFormed ∧ t.HasFourDigitYear)
    {times : List Timestamp} (h : ∀ u ∈ times, u = t) : IsClock times := by
  constructor
  · intro u hu
    rwa [h u hu]
  · refine List.Pairwise.imp_of_mem ?_ (List.pairwise_of_forall (R := fun _ _ => True) (by simp))
    intro u v hu hv _
    rw [h u hu, h v hv]
    exact NotAfter.refl t

def clockText (t : Timestamp) : List Char :=
  (Text.padded 2 t.hour).toList ++ ((Text.padded 2 t.minute).toList ++
    ((Text.padded 2 t.second).toList ++ ('.' ::
      ((Text.padded 3 (t.subsecond / 1000000)).toList ++ ['Z']))))

theorem stamp_toList {t : Timestamp} (h : t.HasFourDigitYear) :
    t.stamp.toList =
      (Text.padded 4 t.date.year.toNat).toList ++ ((Text.padded 2 t.date.month).toList ++
        ((Text.padded 2 t.date.day).toList ++ ('T' :: t.clockText))) := by
  simp [stamp, clockText, yearText_eq h]

theorem clock_le {t u : Timestamp} (ht : t.IsWellFormed) (hu : u.IsWellFormed)
    (h : t.NotAfter u) (hday : t.seconds / 86400 = u.seconds / 86400) :
    t.hour < u.hour ∨ t.hour = u.hour ∧ (t.minute < u.minute ∨ t.minute = u.minute ∧
      (t.second < u.second ∨ t.second = u.second ∧
        t.subsecond / 1000000 ≤ u.subsecond / 1000000)) := by
  have hnanos : Duration.nanosPerSecond = 1000000000 := rfl
  have htleap := ht.leap
  have huleap := hu.leap
  have hsecond : t.secondOfDay < u.secondOfDay ∨
      t.secondOfDay = u.secondOfDay ∧ t.fraction ≤ u.fraction := by
    unfold NotAfter at h
    unfold secondOfDay
    omega
  unfold hour minute second subsecond
  rw [hnanos] at *
  generalize t.secondOfDay = s at *
  generalize u.secondOfDay = s' at *
  rcases hsecond with hlt | ⟨rfl, hle⟩
  · omega
  · omega

theorem clockText_atMost {t u : Timestamp} (ht : t.IsWellFormed) (hu : u.IsWellFormed)
    (h : t.NotAfter u) (hday : t.seconds / 86400 = u.seconds / 86400) :
    Text.AtMost t.clockText u.clockText := by
  have millis (t : Timestamp) : t.subsecond / 1000000 < 10 ^ 3 := by
    have hlt := t.subsecond_lt
    omega
  apply Text.padded_append_atMost (by decide) (Nat.lt_trans t.hour_lt (by decide))
    (Nat.lt_trans u.hour_lt (by decide))
  refine (clock_le ht hu h hday).imp_right (And.imp_right fun hminute => ?_)
  apply Text.padded_append_atMost (by decide) (Nat.lt_trans t.minute_lt (by decide))
    (Nat.lt_trans u.minute_lt (by decide))
  refine hminute.imp_right (And.imp_right fun hsecond => ?_)
  apply Text.padded_append_atMost (by decide) (Nat.lt_trans (second_lt ht) (by decide))
    (Nat.lt_trans (second_lt hu) (by decide))
  refine hsecond.imp_right (And.imp_right fun hmillis => ?_)
  refine .cons ?_ '.'
  apply Text.padded_append_atMost (by decide) (millis t) (millis u)
  exact (Nat.lt_or_eq_of_le hmillis).imp_right fun heq => ⟨heq, .inr rfl⟩

theorem date_le {t u : Timestamp} (h : t.NotAfter u) :
    t.date.Before u.date ∨ t.date = u.date ∧ t.seconds / 86400 = u.seconds / 86400 := by
  have hdays : t.seconds / 86400 ≤ u.seconds / 86400 := by
    unfold NotAfter at h
    omega
  rcases Int.lt_or_eq_of_le hdays with hlt | heq
  · exact .inl (Date.before_of_lt (by omega))
  · refine .inr ⟨?_, heq⟩
    rw [date, date, heq]

theorem stamp_atMost {t u : Timestamp} (ht : t.IsWellFormed) (hu : u.IsWellFormed)
    (htyear : t.HasFourDigitYear) (huyear : u.HasFourDigitYear) (h : t.NotAfter u) :
    Text.AtMost t.stamp.toList u.stamp.toList := by
  obtain ⟨htmin, htmax⟩ := htyear
  obtain ⟨humin, humax⟩ := huyear
  rw [stamp_toList ⟨htmin, htmax⟩, stamp_toList ⟨humin, humax⟩]
  apply Text.padded_append_atMost (by decide) (by omega) (by omega)
  rcases date_le h with hbefore | ⟨hdate, hday⟩
  · rcases hbefore with hlt | ⟨heq, hrest⟩
    · left
      omega
    · refine .inr ⟨by rw [heq], ?_⟩
      apply Text.padded_append_atMost (by decide) (Nat.lt_trans t.month_lt (by decide))
        (Nat.lt_trans u.month_lt (by decide))
      rcases hrest with hlt | ⟨heq, hlt⟩
      · exact .inl hlt
      · refine .inr ⟨heq, ?_⟩
        exact Text.padded_append_atMost (by decide) (Nat.lt_trans t.day_lt (by decide))
          (Nat.lt_trans u.day_lt (by decide)) (.inl hlt)
  · rw [hdate]
    exact .inr ⟨rfl, .append_left (.append_left (.cons (clockText_atMost ht hu h hday) 'T') _) _⟩

end DnsFilter.Timestamp
