/-!
# Reserved words

The reserved words of the query language, grouped by the role they play in the grammar, with
their upper-case spellings.  `Keyword.all` lists them in table order, and `Keyword.ofWord?` finds
the keyword that a word spells in any letter case.
-/

namespace PipedQuery

/-- The grammatical role of a reserved word. -/
inductive KeywordRole where
  | command
  | clause
  | operator
  | literal
  | commandOption
  | mlOption
  | intervalUnit
  | spanUnit
  | dataType
  | aggregateFunction
  | scalarFunction
  | relevanceFunction
  | relevanceOption
deriving DecidableEq

/-- A reserved word.  A trailing underscore keeps a constructor apart from a word of Lean. -/
inductive Keyword where
  | search | describe | show_ | where_ | fields | rename | stats | dedup | sort | eval | head
  | top | rare | parse | grok | patterns | kmeans | ad | ml
  | from_ | as_ | by_ | source | index | d | desc | datasources | sortby | auto | str | ip | num
  | case | interval | span | to | datamodel | lookup | savedsearch
  | in_ | not_ | or_ | and_ | xor_ | regexp
  | true_ | false_
  | keepempty | consecutive | dedupSplitvalues | partitions | allnum | delim | method | regex
  | punct | pattern | newField
  | centroids | iterations | distanceType | numberOfTrees | shingleSize | sampleSize
  | outputAfter | timeDecay | anomalyRate | categoryField | timeField | timeZone
  | trainingDataSize | anomalyScoreThreshold
  | dayHour | dayMicrosecond | dayMinute | daySecond | hourMicrosecond | hourMinute | hourSecond
  | millisecond | minuteMicrosecond | minuteSecond | secondMicrosecond | yearMonth
  | ms | s | m | h | w | q | y
  | int | integer | double | long | float | string | boolean
  | avg | count | distinctCount | estdc | estdcError | max | mean | median | min | mode | range
  | stdev | stdevp | sum | sumsq | varSamp | varPop | stddevSamp | stddevPop | percentile | take
  | first | last | list | values | earliest | earliestTime | latest | latestTime | perDay
  | perHour | perMinute | perSecond | rate | sparkline | c | dc
  | abs | cbrt | ceil | ceiling | conv | crc32 | e | exp | floor | ln | log | log10 | log2 | mod
  | pi | position | pow | power | rand | round | sign | sqrt | truncate | acos | asin | atan
  | atan2 | cos | cot | degrees | radians | sin | tan | convertTz | datetime | day | dayOfYear
  | hour | hourOfDay | microsecond | minute | minuteOfDay | minuteOfHour | month | monthOfYear
  | quarter | second | secondOfMinute | week | weekOfYear | year | adddate | addtime | curdate
  | currentDate | currentTime | currentTimestamp | curtime | date | datediff | dateAdd
  | dateFormat | dateSub | dayname | dayofmonth | dayofweek | dayofyear | dayOfMonth | dayOfWeek
  | extract | fromDays | fromUnixtime | getFormat | lastDay | localtime | localtimestamp
  | makedate | maketime | monthname | now | periodAdd | periodDiff | secToTime | strToDate
  | subdate | subtime | sysdate | time | timediff | timestamp | timestampadd | timestampdiff
  | timeFormat | timeToSec | toDays | toSeconds | unixTimestamp | utcDate | utcTime
  | utcTimestamp | weekday | yearweek | substr | substring | ltrim | rtrim | trim | lower
  | upper | concat | concatWs | length | strcmp | right | left | ascii | locate | replace
  | reverse | cast | like | isnull | isnotnull | ifnull | nullif | if_ | typeof
  | match_ | matchPhrase | matchPhrasePrefix | matchBoolPrefix | simpleQueryString | multiMatch
  | queryString
  | allowLeadingWildcard | analyzeWildcard | analyzer | autoGenerateSynonymsPhraseQuery | boost
  | cutoffFrequency | defaultField | defaultOperator | enablePositionIncrements | escape | flags
  | fuzzyMaxExpansions | fuzzyPrefixLength | fuzzyTranspositions | fuzzyRewrite | fuzziness
  | lenient | lowFreqOperator | maxDeterminizedStates | maxExpansions | minimumShouldMatch
  | operator | phraseSlop | prefixLength | quoteAnalyzer | quoteFieldSuffix | rewrite | slop
  | tieBreaker | type | zeroTermsQuery
deriving DecidableEq

namespace Keyword

/-- The upper-case spelling. -/
def spelling : Keyword → String
  | .search => "SEARCH"
  | .describe => "DESCRIBE"
  | .show_ => "SHOW"
  | .where_ => "WHERE"
  | .fields => "FIELDS"
  | .rename => "RENAME"
  | .stats => "STATS"
  | .dedup => "DEDUP"
  | .sort => "SORT"
  | .eval => "EVAL"
  | .head => "HEAD"
  | .top => "TOP"
  | .rare => "RARE"
  | .parse => "PARSE"
  | .grok => "GROK"
  | .patterns => "PATTERNS"
  | .kmeans => "KMEANS"
  | .ad => "AD"
  | .ml => "ML"
  | .from_ => "FROM"
  | .as_ => "AS"
  | .by_ => "BY"
  | .source => "SOURCE"
  | .index => "INDEX"
  | .d => "D"
  | .desc => "DESC"
  | .datasources => "DATASOURCES"
  | .sortby => "SORTBY"
  | .auto => "AUTO"
  | .str => "STR"
  | .ip => "IP"
  | .num => "NUM"
  | .case => "CASE"
  | .interval => "INTERVAL"
  | .span => "SPAN"
  | .to => "TO"
  | .datamodel => "DATAMODEL"
  | .lookup => "LOOKUP"
  | .savedsearch => "SAVEDSEARCH"
  | .in_ => "IN"
  | .not_ => "NOT"
  | .or_ => "OR"
  | .and_ => "AND"
  | .xor_ => "XOR"
  | .regexp => "REGEXP"
  | .true_ => "TRUE"
  | .false_ => "FALSE"
  | .keepempty => "KEEPEMPTY"
  | .consecutive => "CONSECUTIVE"
  | .dedupSplitvalues => "DEDUP_SPLITVALUES"
  | .partitions => "PARTITIONS"
  | .allnum => "ALLNUM"
  | .delim => "DELIM"
  | .method => "METHOD"
  | .regex => "REGEX"
  | .punct => "PUNCT"
  | .pattern => "PATTERN"
  | .newField => "NEW_FIELD"
  | .centroids => "CENTROIDS"
  | .iterations => "ITERATIONS"
  | .distanceType => "DISTANCE_TYPE"
  | .numberOfTrees => "NUMBER_OF_TREES"
  | .shingleSize => "SHINGLE_SIZE"
  | .sampleSize => "SAMPLE_SIZE"
  | .outputAfter => "OUTPUT_AFTER"
  | .timeDecay => "TIME_DECAY"
  | .anomalyRate => "ANOMALY_RATE"
  | .categoryField => "CATEGORY_FIELD"
  | .timeField => "TIME_FIELD"
  | .timeZone => "TIME_ZONE"
  | .trainingDataSize => "TRAINING_DATA_SIZE"
  | .anomalyScoreThreshold => "ANOMALY_SCORE_THRESHOLD"
  | .dayHour => "DAY_HOUR"
  | .dayMicrosecond => "DAY_MICROSECOND"
  | .dayMinute => "DAY_MINUTE"
  | .daySecond => "DAY_SECOND"
  | .hourMicrosecond => "HOUR_MICROSECOND"
  | .hourMinute => "HOUR_MINUTE"
  | .hourSecond => "HOUR_SECOND"
  | .millisecond => "MILLISECOND"
  | .minuteMicrosecond => "MINUTE_MICROSECOND"
  | .minuteSecond => "MINUTE_SECOND"
  | .secondMicrosecond => "SECOND_MICROSECOND"
  | .yearMonth => "YEAR_MONTH"
  | .ms => "MS"
  | .s => "S"
  | .m => "M"
  | .h => "H"
  | .w => "W"
  | .q => "Q"
  | .y => "Y"
  | .int => "INT"
  | .integer => "INTEGER"
  | .double => "DOUBLE"
  | .long => "LONG"
  | .float => "FLOAT"
  | .string => "STRING"
  | .boolean => "BOOLEAN"
  | .avg => "AVG"
  | .count => "COUNT"
  | .distinctCount => "DISTINCT_COUNT"
  | .estdc => "ESTDC"
  | .estdcError => "ESTDC_ERROR"
  | .max => "MAX"
  | .mean => "MEAN"
  | .median => "MEDIAN"
  | .min => "MIN"
  | .mode => "MODE"
  | .range => "RANGE"
  | .stdev => "STDEV"
  | .stdevp => "STDEVP"
  | .sum => "SUM"
  | .sumsq => "SUMSQ"
  | .varSamp => "VAR_SAMP"
  | .varPop => "VAR_POP"
  | .stddevSamp => "STDDEV_SAMP"
  | .stddevPop => "STDDEV_POP"
  | .percentile => "PERCENTILE"
  | .take => "TAKE"
  | .first => "FIRST"
  | .last => "LAST"
  | .list => "LIST"
  | .values => "VALUES"
  | .earliest => "EARLIEST"
  | .earliestTime => "EARLIEST_TIME"
  | .latest => "LATEST"
  | .latestTime => "LATEST_TIME"
  | .perDay => "PER_DAY"
  | .perHour => "PER_HOUR"
  | .perMinute => "PER_MINUTE"
  | .perSecond => "PER_SECOND"
  | .rate => "RATE"
  | .sparkline => "SPARKLINE"
  | .c => "C"
  | .dc => "DC"
  | .abs => "ABS"
  | .cbrt => "CBRT"
  | .ceil => "CEIL"
  | .ceiling => "CEILING"
  | .conv => "CONV"
  | .crc32 => "CRC32"
  | .e => "E"
  | .exp => "EXP"
  | .floor => "FLOOR"
  | .ln => "LN"
  | .log => "LOG"
  | .log10 => "LOG10"
  | .log2 => "LOG2"
  | .mod => "MOD"
  | .pi => "PI"
  | .position => "POSITION"
  | .pow => "POW"
  | .power => "POWER"
  | .rand => "RAND"
  | .round => "ROUND"
  | .sign => "SIGN"
  | .sqrt => "SQRT"
  | .truncate => "TRUNCATE"
  | .acos => "ACOS"
  | .asin => "ASIN"
  | .atan => "ATAN"
  | .atan2 => "ATAN2"
  | .cos => "COS"
  | .cot => "COT"
  | .degrees => "DEGREES"
  | .radians => "RADIANS"
  | .sin => "SIN"
  | .tan => "TAN"
  | .convertTz => "CONVERT_TZ"
  | .datetime => "DATETIME"
  | .day => "DAY"
  | .dayOfYear => "DAY_OF_YEAR"
  | .hour => "HOUR"
  | .hourOfDay => "HOUR_OF_DAY"
  | .microsecond => "MICROSECOND"
  | .minute => "MINUTE"
  | .minuteOfDay => "MINUTE_OF_DAY"
  | .minuteOfHour => "MINUTE_OF_HOUR"
  | .month => "MONTH"
  | .monthOfYear => "MONTH_OF_YEAR"
  | .quarter => "QUARTER"
  | .second => "SECOND"
  | .secondOfMinute => "SECOND_OF_MINUTE"
  | .week => "WEEK"
  | .weekOfYear => "WEEK_OF_YEAR"
  | .year => "YEAR"
  | .adddate => "ADDDATE"
  | .addtime => "ADDTIME"
  | .curdate => "CURDATE"
  | .currentDate => "CURRENT_DATE"
  | .currentTime => "CURRENT_TIME"
  | .currentTimestamp => "CURRENT_TIMESTAMP"
  | .curtime => "CURTIME"
  | .date => "DATE"
  | .datediff => "DATEDIFF"
  | .dateAdd => "DATE_ADD"
  | .dateFormat => "DATE_FORMAT"
  | .dateSub => "DATE_SUB"
  | .dayname => "DAYNAME"
  | .dayofmonth => "DAYOFMONTH"
  | .dayofweek => "DAYOFWEEK"
  | .dayofyear => "DAYOFYEAR"
  | .dayOfMonth => "DAY_OF_MONTH"
  | .dayOfWeek => "DAY_OF_WEEK"
  | .extract => "EXTRACT"
  | .fromDays => "FROM_DAYS"
  | .fromUnixtime => "FROM_UNIXTIME"
  | .getFormat => "GET_FORMAT"
  | .lastDay => "LAST_DAY"
  | .localtime => "LOCALTIME"
  | .localtimestamp => "LOCALTIMESTAMP"
  | .makedate => "MAKEDATE"
  | .maketime => "MAKETIME"
  | .monthname => "MONTHNAME"
  | .now => "NOW"
  | .periodAdd => "PERIOD_ADD"
  | .periodDiff => "PERIOD_DIFF"
  | .secToTime => "SEC_TO_TIME"
  | .strToDate => "STR_TO_DATE"
  | .subdate => "SUBDATE"
  | .subtime => "SUBTIME"
  | .sysdate => "SYSDATE"
  | .time => "TIME"
  | .timediff => "TIMEDIFF"
  | .timestamp => "TIMESTAMP"
  | .timestampadd => "TIMESTAMPADD"
  | .timestampdiff => "TIMESTAMPDIFF"
  | .timeFormat => "TIME_FORMAT"
  | .timeToSec => "TIME_TO_SEC"
  | .toDays => "TO_DAYS"
  | .toSeconds => "TO_SECONDS"
  | .unixTimestamp => "UNIX_TIMESTAMP"
  | .utcDate => "UTC_DATE"
  | .utcTime => "UTC_TIME"
  | .utcTimestamp => "UTC_TIMESTAMP"
  | .weekday => "WEEKDAY"
  | .yearweek => "YEARWEEK"
  | .substr => "SUBSTR"
  | .substring => "SUBSTRING"
  | .ltrim => "LTRIM"
  | .rtrim => "RTRIM"
  | .trim => "TRIM"
  | .lower => "LOWER"
  | .upper => "UPPER"
  | .concat => "CONCAT"
  | .concatWs => "CONCAT_WS"
  | .length => "LENGTH"
  | .strcmp => "STRCMP"
  | .right => "RIGHT"
  | .left => "LEFT"
  | .ascii => "ASCII"
  | .locate => "LOCATE"
  | .replace => "REPLACE"
  | .reverse => "REVERSE"
  | .cast => "CAST"
  | .like => "LIKE"
  | .isnull => "ISNULL"
  | .isnotnull => "ISNOTNULL"
  | .ifnull => "IFNULL"
  | .nullif => "NULLIF"
  | .if_ => "IF"
  | .typeof => "TYPEOF"
  | .match_ => "MATCH"
  | .matchPhrase => "MATCH_PHRASE"
  | .matchPhrasePrefix => "MATCH_PHRASE_PREFIX"
  | .matchBoolPrefix => "MATCH_BOOL_PREFIX"
  | .simpleQueryString => "SIMPLE_QUERY_STRING"
  | .multiMatch => "MULTI_MATCH"
  | .queryString => "QUERY_STRING"
  | .allowLeadingWildcard => "ALLOW_LEADING_WILDCARD"
  | .analyzeWildcard => "ANALYZE_WILDCARD"
  | .analyzer => "ANALYZER"
  | .autoGenerateSynonymsPhraseQuery => "AUTO_GENERATE_SYNONYMS_PHRASE_QUERY"
  | .boost => "BOOST"
  | .cutoffFrequency => "CUTOFF_FREQUENCY"
  | .defaultField => "DEFAULT_FIELD"
  | .defaultOperator => "DEFAULT_OPERATOR"
  | .enablePositionIncrements => "ENABLE_POSITION_INCREMENTS"
  | .escape => "ESCAPE"
  | .flags => "FLAGS"
  | .fuzzyMaxExpansions => "FUZZY_MAX_EXPANSIONS"
  | .fuzzyPrefixLength => "FUZZY_PREFIX_LENGTH"
  | .fuzzyTranspositions => "FUZZY_TRANSPOSITIONS"
  | .fuzzyRewrite => "FUZZY_REWRITE"
  | .fuzziness => "FUZZINESS"
  | .lenient => "LENIENT"
  | .lowFreqOperator => "LOW_FREQ_OPERATOR"
  | .maxDeterminizedStates => "MAX_DETERMINIZED_STATES"
  | .maxExpansions => "MAX_EXPANSIONS"
  | .minimumShouldMatch => "MINIMUM_SHOULD_MATCH"
  | .operator => "OPERATOR"
  | .phraseSlop => "PHRASE_SLOP"
  | .prefixLength => "PREFIX_LENGTH"
  | .quoteAnalyzer => "QUOTE_ANALYZER"
  | .quoteFieldSuffix => "QUOTE_FIELD_SUFFIX"
  | .rewrite => "REWRITE"
  | .slop => "SLOP"
  | .tieBreaker => "TIE_BREAKER"
  | .type => "TYPE"
  | .zeroTermsQuery => "ZERO_TERMS_QUERY"

/-- The role the word plays in the grammar. -/
def role : Keyword → KeywordRole
  | .search | .describe | .show_ | .where_ | .fields | .rename | .stats | .dedup | .sort | .eval
  | .head | .top | .rare | .parse | .grok | .patterns | .kmeans | .ad | .ml => .command
  | .from_ | .as_ | .by_ | .source | .index | .d | .desc | .datasources | .sortby | .auto | .str
  | .ip | .num | .case | .interval | .span | .to | .datamodel | .lookup | .savedsearch => .clause
  | .in_ | .not_ | .or_ | .and_ | .xor_ | .regexp => .operator
  | .true_ | .false_ => .literal
  | .keepempty | .consecutive | .dedupSplitvalues | .partitions | .allnum | .delim | .method
  | .regex | .punct | .pattern | .newField => .commandOption
  | .centroids | .iterations | .distanceType | .numberOfTrees | .shingleSize | .sampleSize
  | .outputAfter | .timeDecay | .anomalyRate | .categoryField | .timeField | .timeZone
  | .trainingDataSize | .anomalyScoreThreshold => .mlOption
  | .dayHour | .dayMicrosecond | .dayMinute | .daySecond | .hourMicrosecond | .hourMinute
  | .hourSecond | .millisecond | .minuteMicrosecond | .minuteSecond | .secondMicrosecond
  | .yearMonth => .intervalUnit
  | .ms | .s | .m | .h | .w | .q | .y => .spanUnit
  | .int | .integer | .double | .long | .float | .string | .boolean => .dataType
  | .avg | .count | .distinctCount | .estdc | .estdcError | .max | .mean | .median | .min
  | .mode | .range | .stdev | .stdevp | .sum | .sumsq | .varSamp | .varPop | .stddevSamp
  | .stddevPop | .percentile | .take | .first | .last | .list | .values | .earliest
  | .earliestTime | .latest | .latestTime | .perDay | .perHour | .perMinute | .perSecond | .rate
  | .sparkline | .c | .dc => .aggregateFunction
  | .abs | .cbrt | .ceil | .ceiling | .conv | .crc32 | .e | .exp | .floor | .ln | .log | .log10
  | .log2 | .mod | .pi | .position | .pow | .power | .rand | .round | .sign | .sqrt | .truncate
  | .acos | .asin | .atan | .atan2 | .cos | .cot | .degrees | .radians | .sin | .tan
  | .convertTz | .datetime | .day | .dayOfYear | .hour | .hourOfDay | .microsecond | .minute
  | .minuteOfDay | .minuteOfHour | .month | .monthOfYear | .quarter | .second | .secondOfMinute
  | .week | .weekOfYear | .year | .adddate | .addtime | .curdate | .currentDate | .currentTime
  | .currentTimestamp | .curtime | .date | .datediff | .dateAdd | .dateFormat | .dateSub
  | .dayname | .dayofmonth | .dayofweek | .dayofyear | .dayOfMonth | .dayOfWeek | .extract
  | .fromDays | .fromUnixtime | .getFormat | .lastDay | .localtime | .localtimestamp | .makedate
  | .maketime | .monthname | .now | .periodAdd | .periodDiff | .secToTime | .strToDate
  | .subdate | .subtime | .sysdate | .time | .timediff | .timestamp | .timestampadd
  | .timestampdiff | .timeFormat | .timeToSec | .toDays | .toSeconds | .unixTimestamp | .utcDate
  | .utcTime | .utcTimestamp | .weekday | .yearweek | .substr | .substring | .ltrim | .rtrim
  | .trim | .lower | .upper | .concat | .concatWs | .length | .strcmp | .right | .left | .ascii
  | .locate | .replace | .reverse | .cast | .like | .isnull | .isnotnull | .ifnull | .nullif
  | .if_ | .typeof => .scalarFunction
  | .match_ | .matchPhrase | .matchPhrasePrefix | .matchBoolPrefix | .simpleQueryString
  | .multiMatch | .queryString => .relevanceFunction
  | .allowLeadingWildcard | .analyzeWildcard | .analyzer | .autoGenerateSynonymsPhraseQuery
  | .boost | .cutoffFrequency | .defaultField | .defaultOperator | .enablePositionIncrements
  | .escape | .flags | .fuzzyMaxExpansions | .fuzzyPrefixLength | .fuzzyTranspositions
  | .fuzzyRewrite | .fuzziness | .lenient | .lowFreqOperator | .maxDeterminizedStates
  | .maxExpansions | .minimumShouldMatch | .operator | .phraseSlop | .prefixLength
  | .quoteAnalyzer | .quoteFieldSuffix | .rewrite | .slop | .tieBreaker | .type
  | .zeroTermsQuery => .relevanceOption

/-- Every keyword, role by role in table order. -/
def all : List Keyword :=
  [.search, .describe, .show_, .where_, .fields, .rename, .stats, .dedup, .sort, .eval, .head,
    .top, .rare, .parse, .grok, .patterns, .kmeans, .ad, .ml, .from_, .as_, .by_, .source,
    .index, .d, .desc, .datasources, .sortby, .auto, .str, .ip, .num, .case, .interval, .span,
    .to, .datamodel, .lookup, .savedsearch, .in_, .not_, .or_, .and_, .xor_, .regexp, .true_,
    .false_, .keepempty, .consecutive, .dedupSplitvalues, .partitions, .allnum, .delim, .method,
    .regex, .punct, .pattern, .newField, .centroids, .iterations, .distanceType, .numberOfTrees,
    .shingleSize, .sampleSize, .outputAfter, .timeDecay, .anomalyRate, .categoryField,
    .timeField, .timeZone, .trainingDataSize, .anomalyScoreThreshold, .dayHour, .dayMicrosecond,
    .dayMinute, .daySecond, .hourMicrosecond, .hourMinute, .hourSecond, .millisecond,
    .minuteMicrosecond, .minuteSecond, .secondMicrosecond, .yearMonth, .ms, .s, .m, .h, .w, .q,
    .y, .int, .integer, .double, .long, .float, .string, .boolean, .avg, .count, .distinctCount,
    .estdc, .estdcError, .max, .mean, .median, .min, .mode, .range, .stdev, .stdevp, .sum,
    .sumsq, .varSamp, .varPop, .stddevSamp, .stddevPop, .percentile, .take, .first, .last, .list,
    .values, .earliest, .earliestTime, .latest, .latestTime, .perDay, .perHour, .perMinute,
    .perSecond, .rate, .sparkline, .c, .dc, .abs, .cbrt, .ceil, .ceiling, .conv, .crc32, .e,
    .exp, .floor, .ln, .log, .log10, .log2, .mod, .pi, .position, .pow, .power, .rand, .round,
    .sign, .sqrt, .truncate, .acos, .asin, .atan, .atan2, .cos, .cot, .degrees, .radians, .sin,
    .tan, .convertTz, .datetime, .day, .dayOfYear, .hour, .hourOfDay, .microsecond, .minute,
    .minuteOfDay, .minuteOfHour, .month, .monthOfYear, .quarter, .second, .secondOfMinute, .week,
    .weekOfYear, .year, .adddate, .addtime, .curdate, .currentDate, .currentTime,
    .currentTimestamp, .curtime, .date, .datediff, .dateAdd, .dateFormat, .dateSub, .dayname,
    .dayofmonth, .dayofweek, .dayofyear, .dayOfMonth, .dayOfWeek, .extract, .fromDays,
    .fromUnixtime, .getFormat, .lastDay, .localtime, .localtimestamp, .makedate, .maketime,
    .monthname, .now, .periodAdd, .periodDiff, .secToTime, .strToDate, .subdate, .subtime,
    .sysdate, .time, .timediff, .timestamp, .timestampadd, .timestampdiff, .timeFormat,
    .timeToSec, .toDays, .toSeconds, .unixTimestamp, .utcDate, .utcTime, .utcTimestamp, .weekday,
    .yearweek, .substr, .substring, .ltrim, .rtrim, .trim, .lower, .upper, .concat, .concatWs,
    .length, .strcmp, .right, .left, .ascii, .locate, .replace, .reverse, .cast, .like, .isnull,
    .isnotnull, .ifnull, .nullif, .if_, .typeof, .match_, .matchPhrase, .matchPhrasePrefix,
    .matchBoolPrefix, .simpleQueryString, .multiMatch, .queryString, .allowLeadingWildcard,
    .analyzeWildcard, .analyzer, .autoGenerateSynonymsPhraseQuery, .boost, .cutoffFrequency,
    .defaultField, .defaultOperator, .enablePositionIncrements, .escape, .flags,
    .fuzzyMaxExpansions, .fuzzyPrefixLength, .fuzzyTranspositions, .fuzzyRewrite, .fuzziness,
    .lenient, .lowFreqOperator, .maxDeterminizedStates, .maxExpansions, .minimumShouldMatch,
    .operator, .phraseSlop, .prefixLength, .quoteAnalyzer, .quoteFieldSuffix, .rewrite, .slop,
    .tieBreaker, .type, .zeroTermsQuery]

/-- The lower-case spelling, used for canonical text and for function names. -/
def lowercase (k : Keyword) : String := k.spelling.map Char.toLower

/-- The keyword that `word` spells in any letter case.  Only ASCII letters are folded, as
    every spelling is ASCII. -/
def ofWord? (word : String) : Option Keyword :=
  let upper := word.map Char.toUpper
  all.find? fun k => k.spelling == upper

end Keyword

end PipedQuery
