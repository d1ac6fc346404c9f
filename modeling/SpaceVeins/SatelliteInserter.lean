import Mathlib.Data.List.Basic
import SpaceVeins.Shared.TextLines

/-!
# The satellite inserter

The module reads a TLE file and asks for one submodule per satellite. Which
submodule vector a satellite goes into, and at which index, is worked out from
its name and, failing that, from its catalog number.
-/

set_option autoImplicit false

namespace SpaceVeins
open CxxString

structure TLE where
  satellite_name : StdString
  tle_line1 : StdString
  tle_line2 : StdString

/-- `operator<<` with `std::endl` after each of the lines. -/
def TLE.print (tle : TLE) : List Char :=
  tle.satellite_name.chars ++ '\n' :: (tle.tle_line1.chars ++ '\n' ::
    (tle.tle_line2.chars ++ ['\n']))

/-- The constellations with submodule vectors of their own, in the order in which they are tried. -/
inductive Constellation where
  | starlink
  | iridium
  | orbcomm
  | spacebee
  | spacebeenz
  | oneweb
  | globalstar
deriving DecidableEq, Repr

namespace Constellation

def name : Constellation → List Char
  | starlink => "STARLINK".toList
  | iridium => "IRIDIUM".toList
  | orbcomm => "ORBCOMM".toList
  | spacebee => "SPACEBEE".toList
  | spacebeenz => "SPACEBEENZ".toList
  | oneweb => "ONEWEB".toList
  | globalstar => "GLOBALSTAR".toList

def all : List Constellation :=
  [starlink, iridium, orbcomm, spacebee, spacebeenz, oneweb, globalstar]

/-- The comparisons of `instantiateSatellite`, one after the other. -/
def ofName (constellation : List Char) : Option Constellation :=
  all.find? fun c => c.name == constellation

end Constellation

/-- A call of `createSatellite`. -/
structure CreateRequest where
  tle : TLE
  satNum : UInt32
  vectorSize : UInt32
  constellation : List Char

namespace CreateRequest

def moduleName (request : CreateRequest) : List Char := "leo".toList ++ request.constellation

def target (request : CreateRequest) : List Char × UInt32 :=
  (request.moduleName, request.satNum)

end CreateRequest

/-- What ends the simulation while a TLE file is read. -/
inductive InserterError where
  | exception (e : StdException)
  | cRuntimeError (message : String)
deriving DecidableEq, Repr

/-- What the rest of the simulation does with the requests of the module. -/
structure Simulation where
  parentModuleFound : Bool
  moduleTypeFound : Bool
  /-- The error, if there is one, that ends a request when those before it have been made. -/
  create : List CreateRequest → CreateRequest → Option String

structure SatelliteInserter where
  satelliteModuleType : String
  satelliteModuleDefaultName : List Char
  ignoreUnknownSatellites : Bool
  satelliteVectorSize : UInt32
  /-- `starlinkVectorSize`, `iridiumVectorSize` and so on. -/
  vectorSize : Constellation → UInt32
  /-- Every call of `createSatellite` so far, oldest first. -/
  created : List CreateRequest

namespace SatelliteInserter

/-- The module after stage 0 of its initialization. -/
def initial (satelliteModuleType : String) (satelliteModuleDefaultName : List Char)
    (ignoreUnknownSatellites : Bool) : SatelliteInserter where
  satelliteModuleType := satelliteModuleType
  satelliteModuleDefaultName := satelliteModuleDefaultName
  ignoreUnknownSatellites := ignoreUnknownSatellites
  satelliteVectorSize := 0
  vectorSize := fun _ => 0
  created := []

def delimiters : List Char := ['-', ' ']

/-- The delimiter at this position stands between brackets; `pos` may be `npos`. -/
def isBracketed (stray : Nat → Char) (satelliteName : List Char) (pos : Nat) : Bool :=
  charAt stray satelliteName (sizePred pos) == '[' &&
    charAt stray satelliteName (sizeSucc pos) == ']'

/-- The loop over the delimiters: the position of the constellation's end, and the delimiter. -/
def findDelimiter (stray : Nat → Char) (satelliteName : List Char) :
    List Char → Nat × List Char
  | [] => (npos, [])
  | delimiter :: rest =>
    let posConstellation := find satelliteName delimiter
    if isBracketed stray satelliteName posConstellation then findDelimiter stray satelliteName rest
    else if posConstellation ≠ npos then (posConstellation, [delimiter])
    else findDelimiter stray satelliteName rest

/-- `std::stoul(tle.get_tle_line1().substr(2, 5))`. -/
def catalogNumber (tle : TLE) : Except StdException UInt64 := do
  stoul 10 (← substr tle.tle_line1.chars 2 5)

/-- The digits behind the delimiter, without leading zeros. -/
def numericPart (satelliteName : List Char) (posConstellation : Nat) (delimiter : List Char) :
    List Char :=
  let satelliteName := satelliteName.drop (sizeT (posConstellation + delimiter.length))
  let satelliteName := satelliteName.filter Char.isDigit
  satelliteName.dropWhile fun c => c == '0'

/-- The number in what is left of the name, or else the catalog number. -/
def satNumOf (tle : TLE) (satelliteName : List Char) : Except StdException UInt32 :=
  match stoul 0 satelliteName with
  | .ok satNum => .ok satNum.toUInt32
  | .error .invalidArgument => (catalogNumber tle).map UInt64.toUInt32
  | .error .outOfRange => .error .outOfRange

def getConstellationAndSatNum (stray : Nat → Char) (tle : TLE) :
    Except StdException (List Char × UInt32) :=
  let satelliteName := tle.satellite_name.chars
  let found := findDelimiter stray satelliteName delimiters
  let constellation := satelliteName.take found.1
  (satNumOf tle (numericPart satelliteName found.1 found.2)).map fun satNum =>
    (constellation, satNum)

def createSatellite (sim : Simulation) (tle : TLE) (satNum vectorSize : UInt32)
    (constellation : List Char) (inserter : SatelliteInserter) :
    SatelliteInserter × Option InserterError :=
  let request : CreateRequest := ⟨tle, satNum, vectorSize, constellation⟩
  ({ inserter with created := inserter.created ++ [request] },
    if !sim.parentModuleFound then some (.cRuntimeError "Parent Module not found")
    else if !sim.moduleTypeFound then
      some (.cRuntimeError ("Module Type \"" ++ inserter.satelliteModuleType ++ "\" not found"))
    else (sim.create inserter.created request).map .cRuntimeError)

/-- The branch of `instantiateSatellite` for one constellation. -/
def instantiateIn (sim : Simulation) (c : Constellation) (tle : TLE) (satNum : UInt32)
    (inserter : SatelliteInserter) : SatelliteInserter × Option InserterError :=
  let size := max (inserter.vectorSize c) (satNum + 1)
  createSatellite sim tle satNum size c.name
    { inserter with vectorSize := fun d => if d = c then size else inserter.vectorSize d }

/-- The branch for satellites without a constellation. -/
def instantiateUnknown (sim : Simulation) (tle : TLE) (inserter : SatelliteInserter) :
    SatelliteInserter × Option InserterError :=
  match catalogNumber tle with
  | .error e => (inserter, some (.exception e))
  | .ok satNum =>
    let size := max inserter.satelliteVectorSize (satNum.toUInt32 + 1)
    createSatellite sim tle satNum.toUInt32 size inserter.satelliteModuleDefaultName
      { inserter with satelliteVectorSize := size }

/-- What `instantiateSatellite` does once the name has been taken apart. -/
def instantiateParsed (sim : Simulation) (tle : TLE) (inserter : SatelliteInserter) :
    Except StdException (List Char × UInt32) → SatelliteInserter × Option InserterError
  | .error e => (inserter, some (.exception e))
  | .ok (constellation, satNum) =>
    match Constellation.ofName constellation with
    | some c => inserter.instantiateIn sim c tle satNum
    | none =>
      if inserter.ignoreUnknownSatellites then (inserter, none)
      else inserter.instantiateUnknown sim tle

def instantiateSatellite (sim : Simulation) (stray : Nat → Char) (tle : TLE)
    (inserter : SatelliteInserter) : SatelliteInserter × Option InserterError :=
  inserter.instantiateParsed sim tle (getConstellationAndSatNum stray tle)

end SatelliteInserter

namespace TleFile
variable {σ : Type}

/-- An error ends the run, and leaves what has been done so far. -/
def andThen (next : σ → σ × Option InserterError) :
    σ × Option InserterError → σ × Option InserterError
  | (s, some e) => (s, some e)
  | (s, none) => next s

/-- The loop of `parseTleFile` over the lines; `instantiateSatellite` is called on each satellite
that is complete. -/
def parseTleLines (instantiateSatellite : TLE → σ → σ × Option InserterError) :
    List StdString → Nat → TLE → σ → σ × Option InserterError
  | [], tleLineNumber, _, s =>
    if tleLineNumber ≠ 0 then (s, some (.cRuntimeError "Incomplete satellite TLE"))
    else (s, none)
  | tleLine :: lines, tleLineNumber, tle, s =>
    match tleLineNumber with
    | 0 => parseTleLines instantiateSatellite lines 1 { tle with satellite_name := tleLine } s
    | 1 => parseTleLines instantiateSatellite lines 2 { tle with tle_line1 := tleLine } s
    | _ =>
      andThen (parseTleLines instantiateSatellite lines 0 { tle with tle_line2 := tleLine })
        (instantiateSatellite { tle with tle_line2 := tleLine } s)

def emptyString : StdString := ⟨[], by decide⟩

/-- `parseTleFile` on the contents of the file. -/
def parse (instantiateSatellite : TLE → σ → σ × Option InserterError) (tleFile : List Char)
    (s : σ) : σ × Option InserterError :=
  parseTleLines instantiateSatellite (getlines tleFile) 0
    ⟨emptyString, emptyString, emptyString⟩ s

end TleFile

def SatelliteInserter.parseTleFile (sim : Simulation) (stray : Nat → Char)
    (tleFile : List Char) (inserter : SatelliteInserter) :
    SatelliteInserter × Option InserterError :=
  TleFile.parse (SatelliteInserter.instantiateSatellite sim stray) tleFile inserter

end SpaceVeins
