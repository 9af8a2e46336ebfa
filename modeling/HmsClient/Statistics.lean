import HmsClient.Types

/-! Column statistics: the wire union, its exported counterpart and the converters.
A float is its bits. -/
namespace HmsClient

namespace Wire

structure BooleanColumnStatsData where
  numTrues : Int64
  numFalses : Int64
  numNulls : Int64

structure LongColumnStatsData where
  lowValue : Option Int64
  highValue : Option Int64
  numNulls : Int64
  numDVs : Int64

structure DoubleColumnStatsData where
  lowValue : Option UInt64
  highValue : Option UInt64
  numNulls : Int64
  numDVs : Int64

structure StringColumnStatsData where
  maxColLen : Int64
  avgColLen : UInt64
  numNulls : Int64
  numDVs : Int64

structure BinaryColumnStatsData where
  maxColLen : Int64
  avgColLen : UInt64
  numNulls : Int64

structure Decimal where
  unscaled : List UInt8
  scale : Int16

structure DecimalColumnStatsData where
  lowValue : Option Decimal
  highValue : Option Decimal
  numNulls : Int64
  numDVs : Int64

structure Date where
  daysSinceEpoch : Int64

structure DateColumnStatsData where
  lowValue : Option Date
  highValue : Option Date
  numNulls : Int64
  numDVs : Int64

structure Timestamp where
  secondsSinceEpoch : Int64

structure TimestampColumnStatsData where
  lowValue : Option Timestamp
  highValue : Option Timestamp
  numNulls : Int64
  numDVs : Int64

/-- The generated union: a struct of pointers, whatever of them is set. -/
structure ColumnStatisticsData where
  booleanStats : Option BooleanColumnStatsData := none
  longStats : Option LongColumnStatsData := none
  doubleStats : Option DoubleColumnStatsData := none
  stringStats : Option StringColumnStatsData := none
  binaryStats : Option BinaryColumnStatsData := none
  decimalStats : Option DecimalColumnStatsData := none
  dateStats : Option DateColumnStatsData := none
  timestampStats : Option TimestampColumnStatsData := none

structure ColumnStatisticsObj where
  colName : Text
  colType : Text
  statsData : Option ColumnStatisticsData

end Wire

/-- `time.Unix`: seconds are counted from year 1 in 64 bits. -/
def Time.ofUnix (sec : Int64) : Time :=
  ⟨(sec + 62135596800).toInt - 62135596800, 0⟩

structure BooleanColumnStats where
  numTrues : Int64
  numFalses : Int64
  numNulls : Int64

structure BinaryColumnStats where
  maxColLen : Int64
  avgColLen : UInt64
  numNulls : Int64

structure StringColumnStats where
  maxColLen : Int64
  avgColLen : UInt64
  numNulls : Int64
  numDistinct : Int64

structure Decimal where
  unscaled : List UInt8
  scale : Int16

/-- `LongColumnStats`, `DoubleColumnStats`, `DecimalColumnStats`, `DateColumnStats` and
`TimestampColumnStats`, which differ in the type of their bounds. -/
structure BoundedColumnStats (β : Type) where
  lowValue : Option β
  highValue : Option β
  numNulls : Int64
  numDistinct : Int64

abbrev LongColumnStats := BoundedColumnStats Int64
abbrev DoubleColumnStats := BoundedColumnStats UInt64
abbrev DecimalColumnStats := BoundedColumnStats Decimal
abbrev DateColumnStats := BoundedColumnStats Time
abbrev TimestampColumnStats := BoundedColumnStats Time

structure ColumnStatistics where
  columnName : Text
  columnType : Text
  boolean : Option BooleanColumnStats := none
  long : Option LongColumnStats := none
  double : Option DoubleColumnStats := none
  string : Option StringColumnStats := none
  binary : Option BinaryColumnStats := none
  decimal : Option DecimalColumnStats := none
  date : Option DateColumnStats := none
  timestamp : Option TimestampColumnStats := none

def decimalFromThrift (d : Wire.Decimal) : Decimal := ⟨d.unscaled, d.scale⟩

def secondsPerDay : Int64 := 24 * 60 * 60

def dateFromThrift (d : Wire.Date) : Time := .ofUnix (d.daysSinceEpoch * secondsPerDay)

def timestampFromThrift (ts : Wire.Timestamp) : Time := .ofUnix ts.secondsSinceEpoch

/-- The first member of the union that is set decides. -/
def columnStatisticsFromThrift (o : Wire.ColumnStatisticsObj) : ColumnStatistics :=
  let out : ColumnStatistics := { columnName := o.colName, columnType := o.colType }
  match o.statsData with
  | none => out
  | some { booleanStats := some s, .. } =>
    { out with boolean := some ⟨s.numTrues, s.numFalses, s.numNulls⟩ }
  | some { longStats := some s, .. } =>
    { out with long := some ⟨s.lowValue, s.highValue, s.numNulls, s.numDVs⟩ }
  | some { doubleStats := some s, .. } =>
    { out with double := some ⟨s.lowValue, s.highValue, s.numNulls, s.numDVs⟩ }
  | some { stringStats := some s, .. } =>
    { out with string := some ⟨s.maxColLen, s.avgColLen, s.numNulls, s.numDVs⟩ }
  | some { binaryStats := some s, .. } =>
    { out with binary := some ⟨s.maxColLen, s.avgColLen, s.numNulls⟩ }
  | some { decimalStats := some s, .. } =>
    { out with
      decimal := some ⟨s.lowValue.map decimalFromThrift, s.highValue.map decimalFromThrift,
        s.numNulls, s.numDVs⟩ }
  | some { dateStats := some s, .. } =>
    { out with
      date := some ⟨s.lowValue.map dateFromThrift, s.highValue.map dateFromThrift, s.numNulls,
        s.numDVs⟩ }
  | some { timestampStats := some s, .. } =>
    { out with
      timestamp := some ⟨s.lowValue.map timestampFromThrift, s.highValue.map timestampFromThrift,
        s.numNulls, s.numDVs⟩ }
  | some _ => out

def columnStatisticsListFromThrift (objs : Slice Wire.ColumnStatisticsObj) :
    Slice ColumnStatistics :=
  objs.convert columnStatisticsFromThrift

end HmsClient
