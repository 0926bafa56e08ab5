import TemplateLang.Date.Calendar

/-!
# Date formats

A date format is text in which a percent sign and a letter stand for a field of a
date or a clock.  Between them a number may be told how to fill its width.  A format
with any other sequence after a percent sign is refused as a whole.
-/

namespace TemplateLang

/-- What fills a number up to its width. -/
inductive Padding where
  | none
  | zero
  | blank
deriving DecidableEq, Repr

/-- Fields that are numbers. -/
inductive NumericField where
  | year | century | yearOfCentury | weekYear | weekYearOfCentury | quarter | month | day
  | sundayWeek | mondayWeek | thursdayWeek | fromSunday | fromMonday | ordinal | hour
  | halfDayHour | minute | second | nanosecond | timestamp
deriving DecidableEq, Repr

/-- How much of an offset is written, and with how many colons. -/
inductive OffsetStyle where
  | plain | colon | seconds | hours
deriving DecidableEq, Repr

/-- Fields that are words, or numbers with a form of their own.  A fraction has a
number of digits, or as many as are needed, and perhaps a point before it. -/
inductive TextField where
  | shortMonth | longMonth | shortWeekday | longWeekday | lowerHalf | upperHalf
  | fraction (digits : Option Nat) (point : Bool)
  | offset (style : OffsetStyle)
  | zoneName
deriving DecidableEq, Repr

/-- A piece of a date format. -/
inductive DateItem where
  | literal (text : String)
  | numeric (field : NumericField) (padding : Padding)
  | word (field : TextField)
deriving DecidableEq, Repr

namespace DateFormat

open DateItem NumericField TextField

/-! ## Reading -/

def monthDayYear : List DateItem :=
  [numeric month .zero, literal "/", numeric day .zero, literal "/",
    numeric yearOfCentury .zero]

def yearMonthDay : List DateItem :=
  [numeric year .zero, literal "-", numeric month .zero, literal "-", numeric day .zero]

def hourMinute : List DateItem :=
  [numeric hour .zero, literal ":", numeric minute .zero]

def hourMinuteSecond : List DateItem :=
  hourMinute ++ [literal ":", numeric second .zero]

/-- What the letter of a field stands for. -/
def itemsOf : Char → Option (List DateItem)
  | 'A' => some [word longWeekday]
  | 'B' => some [word longMonth]
  | 'C' => some [numeric century .zero]
  | 'D' | 'x' => some monthDayYear
  | 'F' => some yearMonthDay
  | 'G' => some [numeric weekYear .zero]
  | 'H' => some [numeric hour .zero]
  | 'I' => some [numeric halfDayHour .zero]
  | 'M' => some [numeric minute .zero]
  | 'P' => some [word lowerHalf]
  | 'R' => some hourMinute
  | 'S' => some [numeric second .zero]
  | 'T' | 'X' => some hourMinuteSecond
  | 'U' => some [numeric sundayWeek .zero]
  | 'V' => some [numeric thursdayWeek .zero]
  | 'W' => some [numeric mondayWeek .zero]
  | 'Y' => some [numeric year .zero]
  | 'Z' => some [word zoneName]
  | 'a' => some [word shortWeekday]
  | 'b' | 'h' => some [word shortMonth]
  | 'c' => some ([word shortWeekday, literal " ", word shortMonth, literal " ",
      numeric day .blank, literal " "] ++ hourMinuteSecond ++ [literal " ", numeric year .zero])
  | 'd' => some [numeric day .zero]
  | 'e' => some [numeric day .blank]
  | 'f' => some [numeric nanosecond .zero]
  | 'g' => some [numeric weekYearOfCentury .zero]
  | 'j' => some [numeric ordinal .zero]
  | 'k' => some [numeric hour .blank]
  | 'l' => some [numeric halfDayHour .blank]
  | 'm' => some [numeric month .zero]
  | 'n' => some [literal "\n"]
  | 'p' => some [word upperHalf]
  | 'q' => some [numeric quarter .none]
  | 'r' => some ([numeric halfDayHour .zero, literal ":", numeric minute .zero, literal ":",
      numeric second .zero, literal " ", word upperHalf])
  | 's' => some [numeric timestamp .none]
  | 't' => some [literal "\t"]
  | 'u' => some [numeric fromMonday .none]
  | 'v' => some [numeric day .blank, literal "-", word shortMonth, literal "-",
      numeric year .zero]
  | 'w' => some [numeric fromSunday .none]
  | 'y' => some [numeric yearOfCentury .zero]
  | 'z' => some [word (offset .plain)]
  | '+' => some (yearMonthDay ++ [literal "T"] ++ hourMinuteSecond ++
      [word (fraction none true), word (offset .colon)])
  | '%' => some [literal "%"]
  | _ => none

/-- The field after a percent sign, and the rest of the format. -/
def readField? : List Char → Option (List DateItem × List Char)
  | '.' :: 'f' :: rest => some ([word (fraction none true)], rest)
  | '.' :: '3' :: 'f' :: rest => some ([word (fraction (some 3) true)], rest)
  | '.' :: '6' :: 'f' :: rest => some ([word (fraction (some 6) true)], rest)
  | '.' :: '9' :: 'f' :: rest => some ([word (fraction (some 9) true)], rest)
  | '3' :: 'f' :: rest => some ([word (fraction (some 3) false)], rest)
  | '6' :: 'f' :: rest => some ([word (fraction (some 6) false)], rest)
  | '9' :: 'f' :: rest => some ([word (fraction (some 9) false)], rest)
  | ':' :: ':' :: ':' :: 'z' :: rest => some ([word (offset .hours)], rest)
  | ':' :: ':' :: 'z' :: rest => some ([word (offset .seconds)], rest)
  | ':' :: 'z' :: rest => some ([word (offset .colon)], rest)
  | c :: rest => (itemsOf c).map (·, rest)
  | [] => none

/-- How the mark after a percent sign fills a number. -/
def paddingOf? : Char → Option Padding
  | '-' => some .none
  | '0' => some .zero
  | '_' => some .blank
  | _ => none

/-- A single number filled in another way; nothing else can be. -/
def withPadding? (padding : Padding) : List DateItem → Option (List DateItem)
  | [numeric field _] => some [numeric field padding]
  | _ => none

/-- The items of what follows a percent sign, and the rest of the format. -/
def readSequence? (text : List Char) : Option (List DateItem × List Char) :=
  match text with
  | c :: rest =>
    match paddingOf? c with
    | some padding => do
      let (items, rest) ← readField? rest
      let items ← withPadding? padding items
      some (items, rest)
    | none => readField? text
  | [] => none

/-- The items of a format, reading at most `fuel` of them. -/
def readItems? : Nat → List Char → Option (List DateItem)
  | _, [] => some []
  | 0, _ :: _ => none
  | fuel + 1, c :: rest =>
    if c = '%' then do
      let (items, rest) ← readSequence? rest
      let others ← readItems? fuel rest
      some (items ++ others)
    else do
      let others ← readItems? fuel rest
      some (literal c.toString :: others)

/-- The items of a format. -/
def read? (format : String) : Option (List DateItem) :=
  readItems? format.length format.toList

/-! ## Writing -/

/-- A number of at least a width. -/
def fill (padding : Padding) (width : Nat) (text : String) : String :=
  let missing := width - text.length
  match padding with
  | .none => text
  | .zero => String.ofList (List.replicate missing '0') ++ text
  | .blank => String.ofList (List.replicate missing ' ') ++ text

/-- A year, with a sign when it does not have four digits. -/
def writeYear (padding : Padding) (year : Int) : String :=
  if 0 ≤ year ∧ year < 10000 then fill padding 4 (toString year.toNat)
  else
    let sign := if year < 0 then "-" else "+"
    match padding with
    | .blank => fill .blank 5 (sign ++ toString year.natAbs)
    | padding => sign ++ fill padding 4 (toString year.natAbs)

def monthNames : List String :=
  ["January", "February", "March", "April", "May", "June", "July", "August", "September",
    "October", "November", "December"]

/-- The names of the days, from Monday. -/
def weekdayNames : List String :=
  ["Monday", "Tuesday", "Wednesday", "Thursday", "Friday", "Saturday", "Sunday"]

def shorten (name : String) : String :=
  String.ofList (name.toList.take 3)

/-- The value of a numeric field and the width that it is filled to. -/
def writeNumeric (moment : Moment) (padding : Padding) (field : NumericField) : String :=
  let time := moment.localTime
  let ordinal := Calendar.ordinal time.year moment.day
  let week := Calendar.thursdayWeek moment.day
  let two (n : Nat) : String := fill padding 2 (toString n)
  match field with
  | year => writeYear padding time.year
  | century => two (time.year.fdiv 100).toNat
  | yearOfCentury => two (time.year.fmod 100).toNat
  | weekYear => writeYear padding week.1
  | weekYearOfCentury => two (week.1.fmod 100).toNat
  | quarter => toString ((time.month - 1) / 3 + 1)
  | month => two time.month
  | day => two time.day
  | sundayWeek => two (Calendar.weekOf ordinal (Calendar.fromSunday moment.day))
  | mondayWeek => two (Calendar.weekOf ordinal (Calendar.fromMonday moment.day))
  | thursdayWeek => two week.2
  | fromSunday => toString (Calendar.fromSunday moment.day)
  | fromMonday => toString (Calendar.fromMonday moment.day + 1)
  | .ordinal => fill padding 3 (toString ordinal)
  | hour => two time.hour
  | halfDayHour => two ((time.hour + 11) % 12 + 1)
  | minute => two time.minute
  | second => two time.second
  | nanosecond => fill padding 9 (toString moment.nanosecond)
  | timestamp => fill padding 9 (toString moment.seconds)

/-- A fraction of a second, in thousandths if they are enough, or else in millionths
or billionths. -/
def writeFraction (nanosecond : Nat) (digits : Option Nat) (point : Bool) : String :=
  let written (digits : Nat) : String :=
    (if point then "." else "") ++
      fill .zero digits (toString (nanosecond / Nat.pow 10 (9 - digits)))
  match digits with
  | some digits => written digits
  | none =>
    if nanosecond = 0 then ""
    else if nanosecond % 1000000 = 0 then written 3
    else if nanosecond % 1000 = 0 then written 6
    else written 9

/-- An offset, with its sign. -/
def writeOffset (offset : Int) (style : OffsetStyle) : String :=
  let sign := if offset < 0 then "-" else "+"
  let two (n : Nat) : String := fill .zero 2 (toString n)
  let rounded := (offset.natAbs + 30) / 60
  match style with
  | .plain => sign ++ two (rounded / 60) ++ two (rounded % 60)
  | .colon => sign ++ two (rounded / 60) ++ ":" ++ two (rounded % 60)
  | .seconds =>
    sign ++ two (offset.natAbs / 3600) ++ ":" ++ two (offset.natAbs / 60 % 60) ++ ":" ++
      two (offset.natAbs % 60)
  | .hours => sign ++ two (offset.natAbs / 3600)

/-- The text of a field that is not a number. -/
def writeWord (moment : Moment) (field : TextField) : String :=
  let time := moment.localTime
  let monthName := (monthNames[time.month - 1]?).getD ""
  let weekdayName := (weekdayNames[Calendar.fromMonday moment.day]?).getD ""
  match field with
  | shortMonth => shorten monthName
  | longMonth => monthName
  | shortWeekday => shorten weekdayName
  | longWeekday => weekdayName
  | lowerHalf => if time.hour < 12 then "am" else "pm"
  | upperHalf => if time.hour < 12 then "AM" else "PM"
  | fraction digits point => writeFraction moment.nanosecond digits point
  | offset style => writeOffset moment.offset style
  | zoneName => writeOffset moment.offset .colon

/-- The text of an item. -/
def writeItem (moment : Moment) : DateItem → String
  | literal text => text
  | numeric field padding => writeNumeric moment padding field
  | word field => writeWord moment field

/-- A moment in a format, unless the format is refused. -/
def write? (moment : Moment) (format : String) : Option String :=
  (read? format).map fun items => String.join (items.map (writeItem moment))

end DateFormat

end TemplateLang
