import SpaceVeins.FailedPropagation
import SpaceVeins.Shared.SteppedCache

/-!
# The SGP4 propagator

`sgp4` takes the record of a satellite to a time, in minutes since its epoch, and
writes a position and a velocity. The record is changed: it keeps the state of
the resonance integrator for the next call. Numbers are elements of a field, and
the loop of the integrator is `none` if it does not end.
-/

set_option autoImplicit false

namespace SpaceVeins.SGP4Funcs
open FailedPropagation SteppedCache

/-- What the propagator uses of the mathematical library. -/
structure MathLibrary (K : Type) [Field K] extends Trigonometry K where
  atan2 : K → K → K
  sqrt : K → K
  pow : K → K → K

/-- The fields that the numerical integration of the resonances keeps from call to call. -/
structure Integrator (K : Type) where
  atime : K
  xli : K
  xni : K

/-- The fields for secular and resonance effects in deep space. -/
structure DeepSpace (K : Type) where
  irez : Int
  d2201 : K
  d2211 : K
  d3210 : K
  d3222 : K
  d4410 : K
  d4422 : K
  d5220 : K
  d5232 : K
  d5421 : K
  d5433 : K
  dedt : K
  del1 : K
  del2 : K
  del3 : K
  didt : K
  dmdt : K
  dnodt : K
  domdt : K
  gsto : K
  xfact : K
  xlamo : K

/-- The fields for the periodics of the sun and the moon. -/
structure LunarSolar (K : Type) where
  e3 : K
  ee2 : K
  peo : K
  pgho : K
  pho : K
  pinco : K
  plo : K
  se2 : K
  se3 : K
  sgh2 : K
  sgh3 : K
  sgh4 : K
  sh2 : K
  sh3 : K
  si2 : K
  si3 : K
  sl2 : K
  sl3 : K
  sl4 : K
  xgh2 : K
  xgh3 : K
  xgh4 : K
  xh2 : K
  xh3 : K
  xi2 : K
  xi3 : K
  xl2 : K
  xl3 : K
  xl4 : K
  zmol : K
  zmos : K

/-- The fields that `sgp4` only reads, apart from those for deep space. -/
structure NearEarth (K : Type) where
  isimp : Int
  cc1 : K
  cc4 : K
  cc5 : K
  d2 : K
  d3 : K
  d4 : K
  delmo : K
  eta : K
  argpdot : K
  omgcof : K
  sinmao : K
  t2cof : K
  t3cof : K
  t4cof : K
  t5cof : K
  mdot : K
  nodedot : K
  xmcof : K
  nodecf : K
  bstar : K
  inclo : K
  nodeo : K
  ecco : K
  argpo : K
  mo : K
  no_unkozai : K
  radiusearthkm : K
  xke : K
  j2 : K
  j3oj2 : K

/-- The fields that follow from the inclination, set anew in every call for deep space. -/
structure InclinationTerms (K : Type) where
  aycof : K
  xlcof : K
  con41 : K
  x1mth2 : K
  x7thm1 : K

/-- The singly averaged elements. -/
structure Averaged (K : Type) where
  am : K
  em : K
  im : K
  Om : K
  om : K
  mm : K
  nm : K

structure Elsetrec (K : Type) where
  error : Int
  operationmode : Char
  method : Char
  t : K
  near : NearEarth K
  deep : DeepSpace K
  periodics : LunarSolar K
  terms : InclinationTerms K
  integrator : Integrator K
  averaged : Averaged K

/-- The mean elements that a call works on. -/
structure Mean (K : Type) where
  nm : K
  em : K
  inclm : K
  argpm : K
  nodem : K
  mm : K

/-- The elements with the periodics of the sun and the moon. -/
structure Perturbed (K : Type) where
  ep : K
  xincp : K
  nodep : K
  argpp : K
  mp : K

variable {K : Type} [Field K] [LinearOrder K] [IsStrictOrderedRing K] [FloorRing K]

def pi : K := 3.14159265358979323846

def twopi : K := 2.0 * pi

def deg2rad : K := pi / 180.0

def fmod (x y : K) : K := x - y * SGP4Mobility.trunc (x / y)

/-- The derivatives that one step of the integrator uses. -/
structure DotTerms (K : Type) where
  xndt : K
  xldot : K
  xnddt : K

section
variable (lib : MathLibrary K)

/-- Near-synchronous resonance terms. -/
def nearSynchronous (deep : DeepSpace K) (s : Integrator K) : DotTerms K :=
  let fasx2 : K := 0.13130908
  let fasx4 : K := 2.8843198
  let fasx6 : K := 0.37448087
  let xndt := deep.del1 * lib.sin (s.xli - fasx2) + deep.del2 * lib.sin (2.0 * (s.xli - fasx4)) +
    deep.del3 * lib.sin (3.0 * (s.xli - fasx6))
  let xldot := s.xni + deep.xfact
  let xnddt := deep.del1 * lib.cos (s.xli - fasx2) +
    2.0 * deep.del2 * lib.cos (2.0 * (s.xli - fasx4)) +
    3.0 * deep.del3 * lib.cos (3.0 * (s.xli - fasx6))
  ⟨xndt, xldot, xnddt * xldot⟩

/-- Near-half-day resonance terms. -/
def nearHalfDay (deep : DeepSpace K) (argpo argpdot : K) (s : Integrator K) : DotTerms K :=
  let g22 : K := 5.7686396
  let g32 : K := 0.95240898
  let g44 : K := 1.8014998
  let g52 : K := 1.0508330
  let g54 : K := 4.4108898
  let xli := s.xli
  let xomi := argpo + argpdot * s.atime
  let x2omi := xomi + xomi
  let x2li := xli + xli
  let xndt := deep.d2201 * lib.sin (x2omi + xli - g22) + deep.d2211 * lib.sin (xli - g22) +
    deep.d3210 * lib.sin (xomi + xli - g32) + deep.d3222 * lib.sin (-xomi + xli - g32) +
    deep.d4410 * lib.sin (x2omi + x2li - g44) + deep.d4422 * lib.sin (x2li - g44) +
    deep.d5220 * lib.sin (xomi + xli - g52) + deep.d5232 * lib.sin (-xomi + xli - g52) +
    deep.d5421 * lib.sin (xomi + x2li - g54) + deep.d5433 * lib.sin (-xomi + x2li - g54)
  let xldot := s.xni + deep.xfact
  let xnddt := deep.d2201 * lib.cos (x2omi + xli - g22) + deep.d2211 * lib.cos (xli - g22) +
    deep.d3210 * lib.cos (xomi + xli - g32) + deep.d3222 * lib.cos (-xomi + xli - g32) +
    deep.d5220 * lib.cos (xomi + xli - g52) + deep.d5232 * lib.cos (-xomi + xli - g52) +
    2.0 * (deep.d4410 * lib.cos (x2omi + x2li - g44) + deep.d4422 * lib.cos (x2li - g44) +
      deep.d5421 * lib.cos (xomi + x2li - g54) + deep.d5433 * lib.cos (-xomi + x2li - g54))
  ⟨xndt, xldot, xnddt * xldot⟩

def dotTerms (deep : DeepSpace K) (argpo argpdot : K) (s : Integrator K) : DotTerms K :=
  if deep.irez ≠ 2 then nearSynchronous lib deep s else nearHalfDay lib deep argpo argpdot s

def stepp : K := 720.0

def step2 : K := 259200.0

/-- One pass through the loop of the integrator that does not leave it. -/
def integratorStep (deep : DeepSpace K) (argpo argpdot delt : K) (s : Integrator K) :
    Integrator K :=
  let terms := dotTerms lib deep argpo argpdot s
  { xli := s.xli + terms.xldot * delt + terms.xndt * step2
    xni := s.xni + terms.xndt * delt + terms.xnddt * step2
    atime := s.atime + delt }

/-- `dspace` from the epoch restart to the end of the loop. -/
def integrate (deep : DeepSpace K) (argpo argpdot t no : K) (s : Integrator K) :
    Option (Integrator K) :=
  let s := if s.atime = 0 ∨ t * s.atime ≤ 0 ∨ |t| < |s.atime| then ⟨0, deep.xlamo, no⟩ else s
  let delt := if 0 < t then stepp else -stepp
  advanceUntil (fun s => decide (|t - s.atime| < stepp))
    (integratorStep lib deep argpo argpdot delt)
    (⌊|t - s.atime| / stepp⌋₊ + 2) s

/-- The secular effects of the sun and the moon, at the beginning of `dspace`. -/
def deepSecular (deep : DeepSpace K) (t : K) (mean : Mean K) : Mean K :=
  { nm := mean.nm
    em := mean.em + deep.dedt * t
    inclm := mean.inclm + deep.didt * t
    argpm := mean.argpm + deep.domdt * t
    nodem := mean.nodem + deep.dnodt * t
    mm := mean.mm + deep.dmdt * t }

/-- `dspace` after the loop, which has left the state `s`; `tc` is `t` in the only call. -/
def resonant (deep : DeepSpace K) (argpo argpdot t no : K) (s : Integrator K) (mean : Mean K) :
    Mean K :=
  let theta := fmod (deep.gsto + t * 4.37526908801129966e-3) twopi
  let terms := dotTerms lib deep argpo argpdot s
  let ft := t - s.atime
  let nm := s.xni + terms.xndt * ft + terms.xnddt * ft * ft * 0.5
  let xl := s.xli + terms.xldot * ft + terms.xndt * ft * ft * 0.5
  let mm :=
    if deep.irez ≠ 1 then xl - 2.0 * mean.nodem + 2.0 * theta
    else xl - mean.nodem - mean.argpm + theta
  let dndt := nm - no
  { mean with mm := mm, nm := no + dndt }

def dspace (deep : DeepSpace K) (argpo argpdot t no : K) (integrator : Integrator K)
    (mean : Mean K) : Option (Integrator K × Mean K) :=
  let mean := deepSecular deep t mean
  if deep.irez ≠ 0 then
    (integrate lib deep argpo argpdot t no integrator).map fun s =>
      (s, resonant lib deep argpo argpdot t no s mean)
  else some (integrator, mean)

/-- `zf` of the sun or of the moon, for its mean anomaly and eccentricity. -/
def trueLongitude (zm ze : K) : K := zm + 2.0 * ze * lib.sin zm

/-- `dpper` as `sgp4` calls it, with `init` equal to `'n'`. -/
def dpper (periodics : LunarSolar K) (t : K) (opsmode : Char) (p : Perturbed K) : Perturbed K :=
  let zf := trueLongitude lib (periodics.zmos + 1.19459e-5 * t) 0.01675
  let sinzf := lib.sin zf
  let f2 := 0.5 * sinzf * sinzf - 0.25
  let f3 := -0.5 * sinzf * lib.cos zf
  let ses := periodics.se2 * f2 + periodics.se3 * f3
  let sis := periodics.si2 * f2 + periodics.si3 * f3
  let sls := periodics.sl2 * f2 + periodics.sl3 * f3 + periodics.sl4 * sinzf
  let sghs := periodics.sgh2 * f2 + periodics.sgh3 * f3 + periodics.sgh4 * sinzf
  let shs := periodics.sh2 * f2 + periodics.sh3 * f3
  let zf := trueLongitude lib (periodics.zmol + 1.5835218e-4 * t) 0.05490
  let sinzf := lib.sin zf
  let f2 := 0.5 * sinzf * sinzf - 0.25
  let f3 := -0.5 * sinzf * lib.cos zf
  let sel := periodics.ee2 * f2 + periodics.e3 * f3
  let sil := periodics.xi2 * f2 + periodics.xi3 * f3
  let sll := periodics.xl2 * f2 + periodics.xl3 * f3 + periodics.xl4 * sinzf
  let sghl := periodics.xgh2 * f2 + periodics.xgh3 * f3 + periodics.xgh4 * sinzf
  let shll := periodics.xh2 * f2 + periodics.xh3 * f3
  let pe := ses + sel - periodics.peo
  let pinc := sis + sil - periodics.pinco
  let pl := sls + sll - periodics.plo
  let pgh := sghs + sghl - periodics.pgho
  let ph := shs + shll - periodics.pho
  let inclp := p.xincp + pinc
  let ep := p.ep + pe
  let sinip := lib.sin inclp
  let cosip := lib.cos inclp
  if 0.2 ≤ inclp then
    let ph := ph / sinip
    let pgh := pgh - cosip * ph
    { ep := ep, xincp := inclp, argpp := p.argpp + pgh, nodep := p.nodep + ph, mp := p.mp + pl }
  else
    -- the modification of Lyddane for small inclinations
    let sinop := lib.sin p.nodep
    let cosop := lib.cos p.nodep
    let dalf := ph * cosop + pinc * cosip * sinop
    let dbet := -ph * sinop + pinc * cosip * cosop
    let alfdp := sinip * sinop + dalf
    let betdp := sinip * cosop + dbet
    let positive (node : K) : K := if node < 0 ∧ opsmode = 'a' then node + twopi else node
    let xnoh := positive (fmod p.nodep twopi)
    let xls := p.mp + p.argpp + cosip * xnoh
    let dls := pl + pgh - pinc * xnoh * sinip
    let xls := xls + dls
    let nodep := positive (lib.atan2 alfdp betdp)
    let nodep :=
      if pi < |xnoh - nodep| then
        if nodep < xnoh then nodep + twopi else nodep - twopi
      else nodep
    let mp := p.mp + pl
    { ep := ep, xincp := inclp, argpp := xls - mp - cosip * nodep, nodep := nodep, mp := mp }

/-- What the update for secular gravity and atmospheric drag leaves for the rest of the call. -/
structure Secular (K : Type) where
  argpm : K
  mm : K
  nodem : K
  tempa : K
  tempe : K
  templ : K

def secular (near : NearEarth K) (t : K) : Secular K :=
  let xmdf := near.mo + near.mdot * t
  let argpdf := near.argpo + near.argpdot * t
  let nodedf := near.nodeo + near.nodedot * t
  let t2 := t * t
  let nodem := nodedf + near.nodecf * t2
  let tempa := 1.0 - near.cc1 * t
  let tempe := near.bstar * near.cc4 * t
  let templ := near.t2cof * t2
  if near.isimp ≠ 1 then
    let delomg := near.omgcof * t
    let delmtemp := 1.0 + near.eta * lib.cos xmdf
    let delm := near.xmcof * (delmtemp * delmtemp * delmtemp - near.delmo)
    let temp := delomg + delm
    let mm := xmdf + temp
    let t3 := t2 * t
    let t4 := t3 * t
    { argpm := argpdf - temp
      mm := mm
      nodem := nodem
      tempa := tempa - near.d2 * t2 - near.d3 * t3 - near.d4 * t4
      tempe := tempe + near.bstar * near.cc5 * (lib.sin mm - near.sinmao)
      templ := templ + near.t3cof * t3 + t4 * (near.t4cof + t * near.t5cof) }
  else ⟨argpdf, xmdf, nodem, tempa, tempe, templ⟩

/-- `eo1` with the sine and the cosine of its last value but one, and the last correction. -/
structure Kepler (K : Type) where
  eo1 : K
  sineo1 : K
  coseo1 : K
  tem5 : K

def keplerStep (u axnl aynl eo1 : K) : Kepler K :=
  let sineo1 := lib.sin eo1
  let coseo1 := lib.cos eo1
  let tem5 := 1.0 - coseo1 * axnl - sineo1 * aynl
  let tem5 := (u - aynl * coseo1 + axnl * sineo1 - eo1) / tem5
  let tem5 := if 0.95 ≤ |tem5| then (if 0 < tem5 then 0.95 else -0.95) else tem5
  ⟨eo1 + tem5, sineo1, coseo1, tem5⟩

/-- The loop with `n` more corrections allowed. -/
def keplerLoop (u axnl aynl : K) : Nat → Kepler K → Kepler K
  | 0, k => k
  | n + 1, k =>
    if 1.0e-12 ≤ |k.tem5| then keplerLoop u axnl aynl n (keplerStep lib u axnl aynl k.eo1) else k

/-- At most ten corrections, of which the first is always made. -/
def solveKepler (u axnl aynl : K) : Kepler K :=
  keplerLoop lib u axnl aynl 9 (keplerStep lib u axnl aynl u)

/-- The distance, its rates and the angles after the short period periodics. -/
structure ShortPeriod (K : Type) where
  mrt : K
  su : K
  xnode : K
  xinc : K
  mvt : K
  rvdot : K

/-- From the preliminary quantities to the short period periodics; `pl` is not negative. -/
def shortPeriod (near : NearEarth K) (terms : InclinationTerms K) (p : Perturbed K)
    (am nm axnl aynl sinip cosip : K) (k : Kepler K) : ShortPeriod K :=
  let ecose := axnl * k.coseo1 + aynl * k.sineo1
  let esine := axnl * k.sineo1 - aynl * k.coseo1
  let el2 := axnl * axnl + aynl * aynl
  let pl := am * (1.0 - el2)
  let rl := am * (1.0 - ecose)
  let rdotl := lib.sqrt am * esine / rl
  let rvdotl := lib.sqrt pl / rl
  let betal := lib.sqrt (1.0 - el2)
  let temp := esine / (1.0 + betal)
  let sinu := am / rl * (k.sineo1 - aynl - axnl * temp)
  let cosu := am / rl * (k.coseo1 - axnl + aynl * temp)
  let su := lib.atan2 sinu cosu
  let sin2u := (cosu + cosu) * sinu
  let cos2u := 1.0 - 2.0 * sinu * sinu
  let temp := 1.0 / pl
  let temp1 := 0.5 * near.j2 * temp
  let temp2 := temp1 * temp
  { mrt := rl * (1.0 - 1.5 * temp2 * betal * terms.con41) + 0.5 * temp1 * terms.x1mth2 * cos2u
    su := su - 0.25 * temp2 * terms.x7thm1 * sin2u
    xnode := p.nodep + 1.5 * temp2 * cosip * sin2u
    xinc := p.xincp + 1.5 * temp2 * cosip * sinip * cos2u
    mvt := rdotl - nm * temp1 * terms.x1mth2 * sin2u / near.xke
    rvdot := rvdotl + nm * temp1 * (terms.x1mth2 * cos2u + 1.5 * terms.con41) / near.xke }

/-- The orientation vectors `u` and `v`. -/
def orientation (su xnode xinc : K) : (K × K × K) × (K × K × K) :=
  let sinsu := lib.sin su
  let cossu := lib.cos su
  let snod := lib.sin xnode
  let cnod := lib.cos xnode
  let sini := lib.sin xinc
  let cosi := lib.cos xinc
  let xmx := -snod * cosi
  let xmy := cnod * cosi
  ((xmx * sinsu + cnod * cossu, xmy * sinsu + snod * cossu, sini * sinsu),
    (xmx * cossu - cnod * sinsu, xmy * cossu - snod * sinsu, sini * cossu))

/-- Position and velocity, in km and km/sec. -/
def positionAndVelocity (near : NearEarth K) (s : ShortPeriod K) : (K × K × K) × (K × K × K) :=
  let vkmpersec := near.radiusearthkm * near.xke / 60.0
  let ((ux, uy, uz), (vx, vy, vz)) := orientation lib s.su s.xnode s.xinc
  (((s.mrt * ux) * near.radiusearthkm, (s.mrt * uy) * near.radiusearthkm,
      (s.mrt * uz) * near.radiusearthkm),
    ((s.mvt * ux + s.rvdot * vx) * vkmpersec, (s.mvt * uy + s.rvdot * vy) * vkmpersec,
      (s.mvt * uz + s.rvdot * vz) * vkmpersec))

/-- A call that returns before the arrays are written. -/
def failed : Propagation K := ⟨false, (none, none, none), (none, none, none)⟩

def written (ret : Bool) (r v : K × K × K) : Propagation K :=
  ⟨ret, (some r.1, some r.2.1, some r.2.2), (some v.1, some v.2.1, some v.2.2)⟩

/-- The coefficient `xlcof`, for which an inclination of 180 degrees is no division by zero. -/
def deepXlcof (near : NearEarth K) (sinip cosip : K) : K :=
  if 1.5e-12 < |cosip + 1.0| then
    -0.25 * near.j3oj2 * sinip * (3.0 + 5.0 * cosip) / (1.0 + cosip)
  else -0.25 * near.j3oj2 * sinip * (3.0 + 5.0 * cosip) / 1.5e-12

/-- The coefficients of the long period periodics in deep space. -/
def longPeriodTerms (near : NearEarth K) (sinip cosip : K) (terms : InclinationTerms K) :
    InclinationTerms K :=
  { terms with aycof := -0.5 * near.j3oj2 * sinip, xlcof := deepXlcof near sinip cosip }

/-- The arrays and the return value; a satellite below the surface has decayed. -/
def finish (satrec : Elsetrec K) (s : ShortPeriod K) : Elsetrec K × Propagation K :=
  let (r, v) := positionAndVelocity lib satrec.near s
  if s.mrt < 1.0 then ({ satrec with error := 6 }, written false r v)
  else (satrec, written true r v)

/-- `sgp4` from the long period periodics on. -/
def place (satrec : Elsetrec K) (p : Perturbed K) : Elsetrec K × Propagation K :=
  let am := satrec.averaged.am
  let nm := satrec.averaged.nm
  let deep := satrec.method == 'd'
  let sinip := if deep then lib.sin p.xincp else lib.sin satrec.averaged.im
  let cosip := if deep then lib.cos p.xincp else lib.cos satrec.averaged.im
  let satrec :=
    if deep then { satrec with terms := longPeriodTerms satrec.near sinip cosip satrec.terms }
    else satrec
  let axnl := p.ep * lib.cos p.argpp
  let temp := 1.0 / (am * (1.0 - p.ep * p.ep))
  let aynl := p.ep * lib.sin p.argpp + temp * satrec.terms.aycof
  let xl := p.mp + p.argpp + p.nodep + temp * satrec.terms.xlcof * axnl
  let u := fmod (xl - p.nodep) twopi
  let k := solveKepler lib u axnl aynl
  let el2 := axnl * axnl + aynl * aynl
  let pl := am * (1.0 - el2)
  if pl < 0 then ({ satrec with error := 4 }, failed)
  else
    let cosisq := cosip * cosip
    let satrec :=
      if deep then
        { satrec with terms := { satrec.terms with
            con41 := 3.0 * cosisq - 1.0
            x1mth2 := 1.0 - cosisq
            x7thm1 := 7.0 * cosisq - 1.0 } }
      else satrec
    finish lib satrec (shortPeriod lib satrec.near satrec.terms p am nm axnl aynl sinip cosip k)

/-- The elements with the periodics of the sun and the moon, unless the eccentricity leaves its
bounds. -/
def perturb (satrec : Elsetrec K) : Option (Perturbed K) :=
  let p : Perturbed K := ⟨satrec.averaged.em, satrec.averaged.im, satrec.averaged.Om,
    satrec.averaged.om, satrec.averaged.mm⟩
  if satrec.method == 'd' then
    let p := dpper lib satrec.periodics satrec.t satrec.operationmode p
    let p := if p.xincp < 0 then
        { p with xincp := -p.xincp, nodep := p.nodep + pi, argpp := p.argpp - pi }
      else p
    if p.ep < 0 ∨ 1.0 < p.ep then none else some p
  else some p

/-- The singly averaged mean elements, with the eccentricity `em` that passed the test. -/
def averagedElements (near : NearEarth K) (sec : Secular K) (mean : Mean K) (em : K) :
    Averaged K :=
  let am := lib.pow (near.xke / mean.nm) (2.0 / 3.0) * sec.tempa * sec.tempa
  let nm := near.xke / lib.pow am 1.5
  let em := if em < 1.0e-6 then 1.0e-6 else em
  let mm := mean.mm + near.no_unkozai * sec.templ
  let xlm := mm + mean.argpm + mean.nodem
  let nodem := fmod mean.nodem twopi
  let argpm := fmod mean.argpm twopi
  let xlm := fmod xlm twopi
  let mm := fmod (xlm - argpm - nodem) twopi
  { am := am, em := em, im := mean.inclm, Om := nodem, om := argpm, mm := mm, nm := nm }

/-- `sgp4` from the test of the mean motion on. -/
def fromMean (satrec : Elsetrec K) (sec : Secular K) (mean : Mean K) :
    Elsetrec K × Propagation K :=
  if mean.nm ≤ 0 then ({ satrec with error := 2 }, failed)
  else
    let em := mean.em - sec.tempe
    if 1.0 ≤ em ∨ em < -0.001 then ({ satrec with error := 1 }, failed)
    else
      let satrec := { satrec with averaged := averagedElements lib satrec.near sec mean em }
      match perturb lib satrec with
      | none => ({ satrec with error := 3 }, failed)
      | some p => place lib satrec p

/-- The mean elements that `sgp4` starts from. -/
def secularMean (near : NearEarth K) (sec : Secular K) : Mean K :=
  ⟨near.no_unkozai, near.ecco, near.inclo, sec.argpm, sec.nodem, sec.mm⟩

def sgp4 (satrec : Elsetrec K) (tsince : K) : Option (Elsetrec K × Propagation K) :=
  let satrec := { satrec with t := tsince, error := 0 }
  let sec := secular lib satrec.near satrec.t
  let mean := secularMean satrec.near sec
  if satrec.method == 'd' then
    (dspace lib satrec.deep satrec.near.argpo satrec.near.argpdot satrec.t satrec.near.no_unkozai
      satrec.integrator mean).map fun (integrator, mean) =>
        fromMean lib { satrec with integrator := integrator } sec mean
  else some (fromMean lib satrec sec mean)

end
end SpaceVeins.SGP4Funcs
