/-
Date values and their spellings.

A time has several spellings: its milliseconds, its date, its date with a clock, and the texts that
are read as dates.  All of them are written in a style as the moment of the time is
(`dateText_eq_text`).  Main statement: in the years 0 to 9999 a date modifier may follow another one
that keeps what it needs, and the date of a document shows what its time shows unless the time has
no moment (`dateValues_agree`).
-/
import StaticSite.Proofs.Render.Echo
import StaticSite.Proofs.Time.DateText

namespace StaticSite

open Text

/-! ## Spellings of a time -/

namespace Time

/-- The milliseconds of a time in base ten. -/
def millisText (t : Int) : String := String.ofList (decimalInt t)

section Spelling

variable {s locale : String} {style : DateStyle} {m : Moment} {t : Int}

/-- A time of the years that can be written is read back from its milliseconds. -/
theorem readInt64_millisText (hlow : startOfTime ≤ t) (hhigh : t ≤ endOfTime) :
    readInt64 (trim (millisText t).toList) = some t := by
  have hblank : ∀ c ∈ decimalInt t, isBlank c = false := by
    have hdecimal : ∀ c ∈ decimal t.natAbs, isBlank c = false :=
      fun c hc => isBlank_of_isDigit ((isNumeral_decimal t.natAbs).isDigit c hc)
    unfold decimalInt
    split
    · exact List.forall_mem_cons.mpr ⟨by decide, hdecimal⟩
    · exact hdecimal
  have hmin : Int64.minValue.toInt ≤ startOfTime := by decide
  have hmax : endOfTime ≤ Int64.maxValue.toInt := by decide
  rw [millisText, String.toList_ofList, trim_eq_self_of_not_blank hblank]
  exact readInt64_decimalInt (hmin.trans hlow) (hhigh.trans hmax)

theorem millisOf?_millisText (hlow : startOfTime ≤ t) (hhigh : t ≤ endOfTime) :
    millisOf? (millisText t) = some t := by
  rw [millisOf?, readInt64_millisText hlow hhigh]
  rfl

/-- A text that is read as a date is not read as a number first. -/
theorem millisOf?_of_timestampOf? (h : timestampOf? s = some t) : millisOf? s = some t := by
  rw [millisOf?, (isTimeText_of_timestampOf? h).readInt64_eq_none, h]
  rfl

/-- All spellings of a time are written as its moment is. -/
theorem dateText_eq_text (hs : millisOf? s = some t) (hm : Moment.ofMillis? t = some m) :
    dateText s style locale = String.ofList (m.text style locale) := by
  rw [dateText, hs, Option.bind_some, hm]

theorem dateText_millisText (hm : Moment.ofMillis? t = some m) :
    dateText (millisText t) style locale = String.ofList (m.text style locale) := by
  obtain ⟨hlow, hhigh⟩ := isSome_ofMillis?_iff.mp (Option.isSome_iff_exists.mpr ⟨m, hm⟩)
  exact dateText_eq_text (millisOf?_millisText hlow hhigh.le) hm

/-- What has no moment stays as it is. -/
theorem dateText_eq_self (hs : millisOf? s = some t) (hm : Moment.ofMillis? t = none) :
    dateText s style locale = s := by
  rw [dateText, hs, Option.bind_some, hm]

/-- A text that is read as a date shows what its time shows, unless the time is the end of the last
year that can be written. -/
theorem dateText_eq_iff (h : timestampOf? s = some t) :
    dateText s style locale = dateText (millisText t) style locale ↔ t ≠ endOfTime := by
  have htime := isTimeText_of_timestampOf? h
  have hs := millisOf?_of_timestampOf? h
  cases hm : Moment.ofMillis? t with
  | some m =>
      have hlt := (isSome_ofMillis?_iff.mp (Option.isSome_iff_exists.mpr ⟨m, hm⟩)).2
      rw [dateText_eq_text hs hm, dateText_millisText hm]
      exact ⟨fun _ => by omega, fun _ => rfl⟩
  | none =>
      rw [dateText_eq_self hs hm,
        dateText_eq_self (millisOf?_millisText htime.low htime.high) hm]
      refine ⟨fun heq => ?_, fun hne => ?_⟩
      · -- one of the two is an integer
        have hint := readInt64_millisText htime.low htime.high
        rw [← heq, htime.readInt64_eq_none] at hint
        cases hint
      · have hlt : t < endOfTime := lt_of_le_of_ne htime.high hne
        have hsome := isSome_ofMillis?_iff.mpr ⟨htime.low, hlt⟩
        rw [hm] at hsome
        cases hsome

end Spelling

/-! ## Spellings of the years 0 to 9999 -/

section Plain

variable {t : Int}

/-- The time lies in one of the years 0 to 9999. -/
def IsPlainTime (t : Int) : Prop := IsPlainYear (Date.ofDayNumber (t / millisPerDay)).year

theorem IsPlainTime.exists_moment (h : IsPlainTime t) :
    ∃ m, Moment.ofMillis? t = some m ∧ IsPlainYear m.date.year := by
  obtain ⟨hlow, hhigh⟩ := h
  refine ⟨_, if_pos ?_, hlow, hhigh⟩
  unfold firstYear lastYear
  omega

/-- Rounding down to the second changes no moment. -/
theorem ofMillis?_second (t : Int) : Moment.ofMillis? (t / 1000 * 1000) = Moment.ofMillis? t := by
  have hday : t / 1000 * 1000 / millisPerDay = t / millisPerDay := by
    unfold millisPerDay
    omega
  have hsecond : t / 1000 * 1000 % millisPerDay / 1000 = t % millisPerDay / 1000 := by
    unfold millisPerDay
    omega
  rw [Moment.ofMillis?, Moment.ofMillis?, hday, hsecond]

/-- Rounding down to the day keeps the date of a moment. -/
theorem ofMillis?_day (t : Int) :
    Moment.ofMillis? (t / millisPerDay * millisPerDay) =
      (Moment.ofMillis? t).map fun m => ⟨m.date, 0, 0, 0⟩ := by
  have hday : t / millisPerDay * millisPerDay / millisPerDay = t / millisPerDay := by
    unfold millisPerDay
    omega
  have hclock : t / millisPerDay * millisPerDay % millisPerDay = 0 := by
    unfold millisPerDay
    omega
  unfold Moment.ofMillis?
  rw [hday, hclock]
  dsimp only
  split <;> rfl

theorem IsPlainTime.timestampOf?_date (h : IsPlainTime t) (locale : String) :
    timestampOf? (dateText (millisText t) .date locale) =
      some (t / millisPerDay * millisPerDay) := by
  obtain ⟨m, hm, hyear⟩ := h.exists_moment
  obtain ⟨hdate, hvalid, -, -⟩ := Moment.of_ofMillis? hm
  rw [dateText_millisText hm, Moment.text, timestampOf?_dateText hvalid hyear, hdate,
    dayNumber_ofDayNumber]

theorem IsPlainTime.timestampOf?_iso (h : IsPlainTime t) (locale : String) :
    timestampOf? (dateText (millisText t) .iso locale) = some (t / 1000 * 1000) := by
  obtain ⟨m, hm, hyear⟩ := h.exists_moment
  obtain ⟨-, hvalid, hclock, hmillis⟩ := Moment.of_ofMillis? hm
  rw [dateText_millisText hm, timestampOf?_isoText hvalid hclock hyear, hmillis]

/-- The date with its clock is written in every style as the time is. -/
theorem IsPlainTime.dateText_iso (h : IsPlainTime t) (style : DateStyle) (locale : String) :
    dateText (dateText (millisText t) .iso locale) style locale =
      dateText (millisText t) style locale := by
  obtain ⟨m, hm, -⟩ := h.exists_moment
  have hiso := millisOf?_of_timestampOf? (h.timestampOf?_iso locale)
  rw [dateText_eq_text hiso ((ofMillis?_second t).trans hm), dateText_millisText hm]

/-- The date is written as the time is in every style without a clock. -/
theorem IsPlainTime.dateText_date (h : IsPlainTime t) {style : DateStyle} (hstyle : style ≠ .iso)
    (locale : String) :
    dateText (dateText (millisText t) .date locale) style locale =
      dateText (millisText t) style locale := by
  obtain ⟨m, hm, -⟩ := h.exists_moment
  have hday := millisOf?_of_timestampOf? (h.timestampOf?_date locale)
  have hmoment := ofMillis?_day t
  rw [hm, Option.map_some] at hmoment
  rw [dateText_eq_text hday hmoment, dateText_millisText hm]
  cases style with
  | iso => exact absurd rfl hstyle
  | _ => rfl

end Plain

end Time

/-! ## Dates of a document -/

namespace Template

open Content (Document)
open Time

namespace VariableContext

variable {ctx : VariableContext}

/-- The words of the date modifiers. -/
def dateWords : List String := ["year", "date", "longdate", "iso"]

theorem exists_style_of_dateWord {word : String} (h : word ∈ dateWords) :
    word ∈ Modifier.plainWords ∧ ∃ style, Modifier.ofWord? word = some (.date style) := by
  simp only [dateWords, List.mem_cons, List.not_mem_nil, or_false] at h
  rcases h with rfl | rfl | rfl | rfl
  · exact ⟨by decide, .year, by decide⟩
  · exact ⟨by decide, .date, by decide⟩
  · exact ⟨by decide, .long, by decide⟩
  · exact ⟨by decide, .iso, by decide⟩

/-- A token with one word shows the value under the modifier of the word. -/
theorem interpolate_word (ctx : VariableContext) {scope : VariableScope} {name word : String}
    {m : Modifier} (hname : IsVariableName name.toList) (hword : word ∈ Modifier.plainWords)
    (hm : Modifier.ofWord? word = some m) :
    ctx.interpolate ("$" ++ scope.name ++ ":" ++ name ++ ":" ++ word) =
      ctx.resolve ⟨scope, name, [m]⟩ := by
  have htoken : tokenFor scope name none [word] =
      "$" ++ scope.name ++ ":" ++ name ++ ":" ++ word := by
    simp [tokenFor, chainFor, wordItem, String.join, String.append_assoc]
  have hmodifiers : modifiersFor none [word] = [m] := by
    simp [modifiersFor, hm]
  rw [← htoken, ← hmodifiers]
  exact ctx.interpolate_token hname (by simp) (List.forall_mem_singleton.mpr hword)

theorem interpolate_date {word : String} {style : DateStyle} (hword : word ∈ Modifier.plainWords)
    (hstyle : Modifier.ofWord? word = some (.date style)) {value : String}
    (hvalue : ctx.document.metadata.get? "date" = some value) :
    ctx.interpolate ("$meta:date:" ++ word) = dateText value style ctx.config.site.locale := by
  have hname : IsVariableName "date".toList := .word ⟨by decide, List.all_eq_true.mp (by decide)⟩
  have hbefore : "$meta:date:" = "$" ++ VariableScope.metadata.name ++ ":" ++ "date" ++ ":" := by
    decide
  rw [hbefore, ctx.interpolate_word hname hword hstyle, resolve, lookup, hvalue]
  rfl

theorem interpolate_timestamp {word : String} {style : DateStyle}
    (hword : word ∈ Modifier.plainWords) (hstyle : Modifier.ofWord? word = some (.date style))
    (ctx : VariableContext) :
    ctx.interpolate ("$node:timestamp:" ++ word) =
      dateText (millisText ctx.document.timestamp) style ctx.config.site.locale := by
  have hname : IsVariableName "timestamp".toList :=
    .word ⟨by decide, List.all_eq_true.mp (by decide)⟩
  have hbefore :
      "$node:timestamp:" = "$" ++ VariableScope.node.name ++ ":" ++ "timestamp" ++ ":" := by
    decide
  have hlookup : ctx.lookup .node "timestamp" = some (millisText ctx.document.timestamp) := by
    simp [lookup, Document.field, millisText]
  rw [hbefore, ctx.interpolate_word hname hword hstyle, resolve, hlookup]
  rfl

theorem modified_date (ctx : VariableContext) (style : DateStyle) (modifiers : List Modifier)
    (value : String) :
    ctx.modified (.date style :: modifiers) (some value) =
      ctx.modified modifiers (some (dateText value style ctx.config.site.locale)) := rfl

/-- The time of a document is its date. -/
theorem timestamp_read {source value : String} {location : Content.Location}
    {renderer : Content.Renderer} {t : Int}
    (hdatetime : (Document.read source location renderer).metadata.get? "datetime" = none)
    (hdate : (Document.read source location renderer).metadata.get? "date" = some value)
    (htime : timestampOf? value = some t) :
    (Document.read source location renderer).timestamp = t := by
  have htimestamp : (Document.read source location renderer).timestamp =
      (((Document.read source location renderer).metadata.get? "datetime" <|>
        (Document.read source location renderer).metadata.get? "date").bind timestampOf?).getD
          location.modified := rfl
  rw [htimestamp, hdatetime, hdate]
  exact congrArg (Option.getD · location.modified) htime

/-- A time of the years 0 to 9999 is read back from its date up to the day and from its date with a
clock up to the second, so each of the two may precede another date modifier, the date one without
a clock.  A document whose date is read as a time shows the same for its date and its time, unless
the time has no moment: then its date stays as it is and its time is a number. -/
theorem dateValues_agree (ctx : VariableContext) :
    (∀ t, IsPlainTime t →
      timestampOf? (dateText (millisText t) .date ctx.config.site.locale) =
        some (t / millisPerDay * millisPerDay) ∧
      timestampOf? (dateText (millisText t) .iso ctx.config.site.locale) =
        some (t / 1000 * 1000) ∧
      (∀ style, ctx.modified [.date .iso, .date style] (some (millisText t)) =
        ctx.modified [.date style] (some (millisText t))) ∧
      ∀ style, style ≠ .iso → ctx.modified [.date .date, .date style] (some (millisText t)) =
        ctx.modified [.date style] (some (millisText t))) ∧
    ∀ source location renderer value t,
      ctx.document = Document.read source location renderer →
      ctx.document.metadata.get? "datetime" = none →
      ctx.document.metadata.get? "date" = some value → timestampOf? value = some t →
      ∀ word ∈ dateWords,
        ctx.interpolate ("$meta:date:" ++ word) = ctx.interpolate ("$node:timestamp:" ++ word) ↔
          t ≠ endOfTime := by
  refine ⟨fun t ht => ⟨ht.timestampOf?_date _, ht.timestampOf?_iso _, fun style => ?_,
    fun style hstyle => ?_⟩, ?_⟩
  · rw [modified_date, modified_date, modified_date, ht.dateText_iso]
  · rw [modified_date, modified_date, modified_date, ht.dateText_date hstyle]
  · intro source location renderer value t hdocument hdatetime hdate htime word hmem
    obtain ⟨hword, style, hstyle⟩ := exists_style_of_dateWord hmem
    have htimestamp : ctx.document.timestamp = t := by
      rw [hdocument] at hdatetime hdate ⊢
      exact timestamp_read hdatetime hdate htime
    rw [interpolate_date hword hstyle hdate, interpolate_timestamp hword hstyle, htimestamp]
    exact dateText_eq_iff htime

/-- A page with a date. -/
def datedContext (date : String) : VariableContext :=
  ⟨.read ("date: " ++ date ++ "\n----\n") ⟨"a.md", "source/a.md", "public/a/index.html", "/a/", 0⟩
    .passthrough, {}, 0⟩

/-- The last millisecond before 1970, and a leap day. -/
theorem dateValues_agree_leapDay :
    timestampOf? (dateText (millisText (-1)) .iso "en-US") = some (-1000) ∧
      timestampOf? "2024-02-29 12:30" = some 1709209800000 ∧
      (datedContext "2024-02-29 12:30").interpolate "$meta:date:longdate" =
        (datedContext "2024-02-29 12:30").interpolate "$node:timestamp:longdate" := by
  obtain ⟨hplain, hdocument⟩ := dateValues_agree (datedContext "2024-02-29 12:30")
  have htime : timestampOf? "2024-02-29 12:30" = some 1709209800000 := by decide +kernel
  have hdatetime : (datedContext "2024-02-29 12:30").document.metadata.get? "datetime" = none := by
    decide +kernel
  have hdate : (datedContext "2024-02-29 12:30").document.metadata.get? "date" =
      some "2024-02-29 12:30" := by
    decide +kernel
  refine ⟨(hplain (-1) ⟨by decide, by decide⟩).2.1, htime, ?_⟩
  exact (hdocument _ _ _ _ _ rfl hdatetime hdate htime "longdate" (by decide)).mpr (by decide)

/-- The leap second that ends the last year is read as a time without a moment. -/
theorem dateValues_differ_leapSecond :
    (datedContext "+262142-12-31 23:59:60").document.metadata.get? "datetime" = none ∧
      (datedContext "+262142-12-31 23:59:60").document.metadata.get? "date" =
        some "+262142-12-31 23:59:60" ∧
      timestampOf? "+262142-12-31 23:59:60" = some endOfTime ∧
      (datedContext "+262142-12-31 23:59:60").interpolate "$meta:date:year" ≠
        (datedContext "+262142-12-31 23:59:60").interpolate "$node:timestamp:year" := by
  have htime : timestampOf? "+262142-12-31 23:59:60" = some endOfTime := by decide +kernel
  have hdatetime : (datedContext "+262142-12-31 23:59:60").document.metadata.get? "datetime" =
      none := by
    decide +kernel
  have hdate : (datedContext "+262142-12-31 23:59:60").document.metadata.get? "date" =
      some "+262142-12-31 23:59:60" := by
    decide +kernel
  refine ⟨hdatetime, hdate, htime, ?_⟩
  have hyear : "year" ∈ dateWords := by decide
  obtain ⟨hword, style, hstyle⟩ := exists_style_of_dateWord hyear
  have hmeta := interpolate_date hword hstyle hdate
  have hnode := interpolate_timestamp hword hstyle (datedContext "+262142-12-31 23:59:60")
  have htimestamp : (datedContext "+262142-12-31 23:59:60").document.timestamp = endOfTime :=
    timestamp_read hdatetime hdate htime
  rw [htimestamp] at hnode
  intro heq
  exact (dateText_eq_iff htime).mp (hmeta.symm.trans (heq.trans hnode)) rfl

end VariableContext

end Template

end StaticSite
