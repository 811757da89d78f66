/-
Locales: the names of the months and their place in a long date.
-/
import StaticSite.Text.Blank
import StaticSite.Text.Split

namespace StaticSite.Time

/-- A locale with its twelve month names; in some the month precedes the day. -/
structure Locale where
  name : String
  monthFirst : Bool
  months : List String
  deriving Repr, DecidableEq

namespace Locale

/-- Month names in English. -/
def englishMonths : List String :=
  ["January", "February", "March", "April", "May", "June", "July", "August", "September",
    "October", "November", "December"]

/-- Month names in French. -/
def frenchMonths : List String :=
  ["janvier", "février", "mars", "avril", "mai", "juin", "juillet", "août", "septembre",
    "octobre", "novembre", "décembre"]

/-- American English, which also stands in for every unknown locale. -/
def american : Locale := ⟨"en_US", true, englishMonths⟩

/-- The locales that are known by name. -/
def known : List Locale :=
  [ american,
    ⟨"en_GB", false, englishMonths⟩,
    ⟨"POSIX", false, englishMonths⟩,
    ⟨"de_DE", false, ["Januar", "Februar", "März", "April", "Mai", "Juni", "Juli", "August",
      "September", "Oktober", "November", "Dezember"]⟩,
    ⟨"de_AT", false, ["Jänner", "Februar", "März", "April", "Mai", "Juni", "Juli", "August",
      "September", "Oktober", "November", "Dezember"]⟩,
    ⟨"fr_FR", false, frenchMonths⟩,
    ⟨"fr_CA", false, frenchMonths⟩,
    ⟨"es_ES", false, ["enero", "febrero", "marzo", "abril", "mayo", "junio", "julio", "agosto",
      "septiembre", "octubre", "noviembre", "diciembre"]⟩,
    ⟨"it_IT", false, ["gennaio", "febbraio", "marzo", "aprile", "maggio", "giugno", "luglio",
      "agosto", "settembre", "ottobre", "novembre", "dicembre"]⟩,
    ⟨"nl_NL", false, ["januari", "februari", "maart", "april", "mei", "juni", "juli", "augustus",
      "september", "oktober", "november", "december"]⟩,
    ⟨"pt_BR", false, ["janeiro", "fevereiro", "março", "abril", "maio", "junho", "julho",
      "agosto", "setembro", "outubro", "novembro", "dezembro"]⟩,
    ⟨"sv_SE", false, ["januari", "februari", "mars", "april", "maj", "juni", "juli", "augusti",
      "september", "oktober", "november", "december"]⟩,
    ⟨"pl_PL", false, ["stycznia", "lutego", "marca", "kwietnia", "maja", "czerwca", "lipca",
      "sierpnia", "września", "października", "listopada", "grudnia"]⟩,
    ⟨"ru_RU", false, ["января", "февраля", "марта", "апреля", "мая", "июня", "июля", "августа",
      "сентября", "октября", "ноября", "декабря"]⟩,
    ⟨"ja_JP", false, ["1月", "2月", "3月", "4月", "5月", "6月", "7月", "8月", "9月", "10月",
      "11月", "12月"]⟩ ]

/-- The locale that a tag such as `de-DE` or `de_DE` names, or American English. -/
def ofTag (tag : String) : Locale :=
  let name := String.ofList (Text.replaceChar '-' ['_'] (Text.trim tag.toList))
  (known.find? fun locale => locale.name == name).getD american

/-- The name of a month from 1 to 12. -/
def monthName (locale : Locale) (month : Nat) : String := (locale.months[month - 1]?).getD ""

end Locale

end StaticSite.Time
