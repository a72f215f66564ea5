import PipedQuery.Keyword

/-!
# Arities

How many positional arguments each function takes.  `CAST` is the one function without an arity,
because its argument has a grammar of its own.
-/

namespace PipedQuery

/-- The number of positional arguments a function accepts.  No `max` means no upper bound. -/
structure Arity where
  min : Nat
  max : Option Nat
deriving DecidableEq

namespace Arity

/-- Exactly `n` arguments. -/
def exactly (n : Nat) : Arity := ⟨n, some n⟩

/-- From `low` to `high` arguments. -/
def between (low high : Nat) : Arity := ⟨low, some high⟩

/-- At least `n` arguments. -/
def atLeast (n : Nat) : Arity := ⟨n, none⟩

/-- Whether `count` arguments are acceptable. -/
def accepts (a : Arity) (count : Nat) : Bool :=
  decide (a.min ≤ count) && a.max.all fun max => decide (count ≤ max)

/-- The range in words, such as `2`, `2 to 3` or `at least 1`. -/
def text (a : Arity) : String :=
  match a.max with
  | some max => if max = a.min then toString a.min else toString a.min ++ " to " ++ toString max
  | none => "at least " ++ toString a.min

/-- The range with its noun, which is singular when the last number is one. -/
def describe (a : Arity) : String :=
  a.text ++ if a.max.getD a.min = 1 then " argument" else " arguments"

end Arity

namespace Keyword

/-- The arity of a function keyword. -/
def arity? : Keyword → Option Arity
  | .e | .pi | .now | .curdate | .currentDate | .currentTime | .currentTimestamp | .curtime
  | .localtime | .localtimestamp | .utcDate | .utcTime | .utcTimestamp =>
    some (.exactly 0)
  | .avg | .distinctCount | .dc | .estdc | .estdcError | .max | .mean | .median | .min | .mode
  | .range | .stdev | .stdevp | .sum | .sumsq | .varSamp | .varPop | .stddevSamp | .stddevPop
  | .first | .last | .list | .values | .earliest | .earliestTime | .latest | .latestTime
  | .perDay | .perHour | .perMinute | .perSecond | .rate | .abs | .cbrt | .ceil | .ceiling
  | .crc32 | .exp | .floor | .ln | .log10 | .log2 | .sign | .sqrt | .acos | .asin | .cos | .cot
  | .degrees | .radians | .sin | .tan | .date | .day | .dayOfYear | .dayofyear | .dayOfMonth
  | .dayofmonth | .dayOfWeek | .dayofweek | .dayname | .hour | .hourOfDay | .microsecond
  | .minute | .minuteOfDay | .minuteOfHour | .month | .monthOfYear | .monthname | .quarter
  | .second | .secondOfMinute | .time | .toDays | .toSeconds | .fromDays | .lastDay | .secToTime
  | .timeToSec | .weekday | .year | .ltrim | .rtrim | .trim | .lower | .upper | .length | .ascii
  | .reverse | .isnull | .isnotnull | .typeof =>
    some (.exactly 1)
  | .percentile | .mod | .pow | .power | .truncate | .atan2 | .adddate | .addtime | .subdate
  | .subtime | .dateAdd | .dateSub | .datediff | .timediff | .dateFormat | .timeFormat
  | .strToDate | .makedate | .periodAdd | .periodDiff | .getFormat | .extract | .position
  | .strcmp | .right | .left | .ifnull | .nullif | .like | .match_ | .matchPhrase
  | .matchPhrasePrefix | .matchBoolPrefix | .simpleQueryString | .multiMatch | .queryString =>
    some (.exactly 2)
  | .conv | .convertTz | .maketime | .timestampadd | .timestampdiff | .replace | .if_ =>
    some (.exactly 3)
  | .count | .c | .rand | .sysdate | .unixTimestamp =>
    some (.between 0 1)
  | .take | .sparkline | .log | .round | .atan | .datetime | .timestamp | .week | .weekOfYear
  | .yearweek | .fromUnixtime =>
    some (.between 1 2)
  | .substr | .substring | .locate =>
    some (.between 2 3)
  | .concat =>
    some (.atLeast 1)
  | .concatWs =>
    some (.atLeast 2)
  | _ => none

end Keyword

end PipedQuery
