import SpaceVeins.SGP4Calls
import SpaceVeins.SiderealTime
import SpaceVeins.TwoLineElements

/-!
# Initialisation of the propagator

`sgp4init` derives the record of a satellite from its elements: the coefficients for
gravity and drag and, for a period of at least 225 minutes, those for the sun, the moon
and the resonances. It ends with a call of `sgp4` for the epoch.
-/

set_option autoImplicit false

namespace SpaceVeins.SGP4Funcs
open SteppedCache Scanf

inductive GravConst where
  | wgs72old
  | wgs72
  | wgs84
deriving DecidableEq, Repr

structure GravityConstants (K : Type) where
  tumin : K
  mus : K
  radiusearthkm : K
  xke : K
  j2 : K
  j3 : K
  j4 : K
  j3oj2 : K

/-- The elements that `sgp4init` is called with. -/
structure Elements (K : Type) where
  bstar : K
  ecco : K
  argpo : K
  inclo : K
  mo : K
  no_kozai : K
  nodeo : K

/-- What `initl` computes. -/
structure Initl (K : Type) where
  ainv : K
  ao : K
  con41 : K
  con42 : K
  cosio : K
  cosio2 : K
  eccsq : K
  omeosq : K
  posq : K
  rp : K
  rteosq : K
  sinio : K
  gsto : K
  no_unkozai : K

/-- The terms of the sun or of the moon in `dscom`. -/
structure ThirdBody (K : Type) where
  s1 : K
  s2 : K
  s3 : K
  s4 : K
  s5 : K
  s6 : K
  s7 : K
  z1 : K
  z2 : K
  z3 : K
  z11 : K
  z12 : K
  z13 : K
  z21 : K
  z22 : K
  z23 : K
  z31 : K
  z32 : K
  z33 : K

/-- How the orbit of the sun or of the moon lies, and the strength of its effect. -/
structure Perturber (K : Type) where
  zcosg : K
  zsing : K
  zcosi : K
  zsini : K
  zcosh : K
  zsinh : K
  cc : K

/-- What `dscom` computes: the orientation and the terms of the sun and of the moon. -/
structure Dscom (K : Type) where
  snodm : K
  cnodm : K
  sinim : K
  cosim : K
  sinomm : K
  cosomm : K
  day : K
  em : K
  emsq : K
  gam : K
  rtemsq : K
  nm : K
  sun : ThirdBody K
  moon : ThirdBody K
  periodics : LunarSolar K

variable {K : Type} [Field K] [LinearOrder K] [IsStrictOrderedRing K] [FloorRing K]
variable (lib : MathLibrary K)

def gravity (mus radiusearthkm xke j2 j3 j4 : K) : GravityConstants K :=
  ⟨1.0 / xke, mus, radiusearthkm, xke, j2, j3, j4, j3 / j2⟩

def getgravconst : GravConst → GravityConstants K
  | .wgs72old =>
    gravity 398600.79964 6378.135 0.0743669161 0.001082616 (-0.00000253881) (-0.00000165597)
  | .wgs72 =>
    let mus : K := 398600.8
    let radiusearthkm : K := 6378.135
    gravity mus radiusearthkm
      (60.0 / lib.sqrt (radiusearthkm * radiusearthkm * radiusearthkm / mus))
      0.001082616 (-0.00000253881) (-0.00000165597)
  | .wgs84 =>
    let mus : K := 398600.5
    let radiusearthkm : K := 6378.137
    gravity mus radiusearthkm
      (60.0 / lib.sqrt (radiusearthkm * radiusearthkm * radiusearthkm / mus))
      0.00108262998905 (-0.00000253215306) (-0.00000161098761)

def initl (xke j2 ecco epoch inclo no_kozai : K) : Initl K :=
  let x2o3 : K := 2.0 / 3.0
  let eccsq := ecco * ecco
  let omeosq := 1.0 - eccsq
  let rteosq := lib.sqrt omeosq
  let cosio := lib.cos inclo
  let cosio2 := cosio * cosio
  let ak := lib.pow (xke / no_kozai) x2o3
  let d1 := 0.75 * j2 * (3.0 * cosio2 - 1.0) / (rteosq * omeosq)
  let del := d1 / (ak * ak)
  let adel := ak * (1.0 - del * del - del * (1.0 / 3.0 + 134.0 * del * del / 81.0))
  let del := d1 / (adel * adel)
  let no_unkozai := no_kozai / (1.0 + del)
  let ao := lib.pow (xke / no_unkozai) x2o3
  let sinio := lib.sin inclo
  let po := ao * omeosq
  let con42 := 1.0 - 5.0 * cosio2
  { ainv := 1.0 / ao, ao := ao, con41 := -con42 - cosio2 - cosio2, con42 := con42, cosio := cosio
    cosio2 := cosio2, eccsq := eccsq, omeosq := omeosq, posq := po * po, rp := ao * (1.0 - ecco)
    rteosq := rteosq, sinio := sinio, gsto := gstime_SGP4 (epoch + 2433281.5)
    no_unkozai := no_unkozai }

/-- One pass through the loop of `dscom`. -/
def thirdBody (cosim sinim cosomm sinomm em emsq betasq rtemsq xnoi : K) (p : Perturber K) :
    ThirdBody K :=
  let a1 := p.zcosg * p.zcosh + p.zsing * p.zcosi * p.zsinh
  let a3 := -p.zsing * p.zcosh + p.zcosg * p.zcosi * p.zsinh
  let a7 := -p.zcosg * p.zsinh + p.zsing * p.zcosi * p.zcosh
  let a8 := p.zsing * p.zsini
  let a9 := p.zsing * p.zsinh + p.zcosg * p.zcosi * p.zcosh
  let a10 := p.zcosg * p.zsini
  let a2 := cosim * a7 + sinim * a8
  let a4 := cosim * a9 + sinim * a10
  let a5 := -sinim * a7 + cosim * a8
  let a6 := -sinim * a9 + cosim * a10
  let x1 := a1 * cosomm + a2 * sinomm
  let x2 := a3 * cosomm + a4 * sinomm
  let x3 := -a1 * sinomm + a2 * cosomm
  let x4 := -a3 * sinomm + a4 * cosomm
  let x5 := a5 * sinomm
  let x6 := a6 * sinomm
  let x7 := a5 * cosomm
  let x8 := a6 * cosomm
  let z31 := 12.0 * x1 * x1 - 3.0 * x3 * x3
  let z32 := 24.0 * x1 * x2 - 6.0 * x3 * x4
  let z33 := 12.0 * x2 * x2 - 3.0 * x4 * x4
  let z1 := 3.0 * (a1 * a1 + a2 * a2) + z31 * emsq
  let z2 := 6.0 * (a1 * a3 + a2 * a4) + z32 * emsq
  let z3 := 3.0 * (a3 * a3 + a4 * a4) + z33 * emsq
  let z11 := -6.0 * a1 * a5 + emsq * (-24.0 * x1 * x7 - 6.0 * x3 * x5)
  let z12 := -6.0 * (a1 * a6 + a3 * a5) +
    emsq * (-24.0 * (x2 * x7 + x1 * x8) - 6.0 * (x3 * x6 + x4 * x5))
  let z13 := -6.0 * a3 * a6 + emsq * (-24.0 * x2 * x8 - 6.0 * x4 * x6)
  let z21 := 6.0 * a2 * a5 + emsq * (24.0 * x1 * x5 - 6.0 * x3 * x7)
  let z22 := 6.0 * (a4 * a5 + a2 * a6) +
    emsq * (24.0 * (x2 * x5 + x1 * x6) - 6.0 * (x4 * x7 + x3 * x8))
  let z23 := 6.0 * a4 * a6 + emsq * (24.0 * x2 * x6 - 6.0 * x4 * x8)
  let s3 := p.cc * xnoi
  let s4 := s3 * rtemsq
  { s1 := -15.0 * em * s4, s2 := -0.5 * s3 / rtemsq, s3 := s3, s4 := s4
    s5 := x1 * x3 + x2 * x4, s6 := x2 * x3 + x1 * x4, s7 := x2 * x4 - x1 * x3
    z1 := z1 + z1 + betasq * z31, z2 := z2 + z2 + betasq * z32, z3 := z3 + z3 + betasq * z33
    z11 := z11, z12 := z12, z13 := z13, z21 := z21, z22 := z22, z23 := z23
    z31 := z31, z32 := z32, z33 := z33 }

/-- The orbit of the moon on a day, seen from the node of the satellite. -/
def lunarOrbit (day cnodm snodm : K) : Perturber K × K :=
  let xnodce := fmod (4.5236020 - 9.2422029e-4 * day) twopi
  let stem := lib.sin xnodce
  let ctem := lib.cos xnodce
  let zcosil := 0.91375164 - 0.03568096 * ctem
  let zsinil := lib.sqrt (1.0 - zcosil * zcosil)
  let zsinhl := 0.089683511 * stem / zsinil
  let zcoshl := lib.sqrt (1.0 - zsinhl * zsinhl)
  let gam := 5.8351514 + 0.0019443680 * day
  let zx := 0.39785416 * stem / zsinil
  let zy := zcoshl * ctem + 0.91744867 * zsinhl * stem
  let zx := lib.atan2 zx zy
  let zx := gam + zx - xnodce
  (⟨lib.cos zx, lib.sin zx, zcosil, zsinil, zcoshl * cnodm + zsinhl * snodm,
    snodm * zcoshl - cnodm * zsinhl, 4.7968065e-7⟩, gam)

/-- The last part of `dscom`. -/
def lunarSolar (emsq day gam : K) (sun moon : ThirdBody K) : LunarSolar K :=
  let zes : K := 0.01675
  let zel : K := 0.05490
  { peo := 0, pinco := 0, plo := 0, pgho := 0, pho := 0
    zmol := fmod (4.7199672 + 0.22997150 * day - gam) twopi
    zmos := fmod (6.2565837 + 0.017201977 * day) twopi
    se2 := 2.0 * sun.s1 * sun.s6
    se3 := 2.0 * sun.s1 * sun.s7
    si2 := 2.0 * sun.s2 * sun.z12
    si3 := 2.0 * sun.s2 * (sun.z13 - sun.z11)
    sl2 := -2.0 * sun.s3 * sun.z2
    sl3 := -2.0 * sun.s3 * (sun.z3 - sun.z1)
    sl4 := -2.0 * sun.s3 * (-21.0 - 9.0 * emsq) * zes
    sgh2 := 2.0 * sun.s4 * sun.z32
    sgh3 := 2.0 * sun.s4 * (sun.z33 - sun.z31)
    sgh4 := -18.0 * sun.s4 * zes
    sh2 := -2.0 * sun.s2 * sun.z22
    sh3 := -2.0 * sun.s2 * (sun.z23 - sun.z21)
    ee2 := 2.0 * moon.s1 * moon.s6
    e3 := 2.0 * moon.s1 * moon.s7
    xi2 := 2.0 * moon.s2 * moon.z12
    xi3 := 2.0 * moon.s2 * (moon.z13 - moon.z11)
    xl2 := -2.0 * moon.s3 * moon.z2
    xl3 := -2.0 * moon.s3 * (moon.z3 - moon.z1)
    xl4 := -2.0 * moon.s3 * (-21.0 - 9.0 * emsq) * zel
    xgh2 := 2.0 * moon.s4 * moon.z32
    xgh3 := 2.0 * moon.s4 * (moon.z33 - moon.z31)
    xgh4 := -18.0 * moon.s4 * zel
    xh2 := -2.0 * moon.s2 * moon.z22
    xh3 := -2.0 * moon.s2 * (moon.z23 - moon.z21) }

def dscom (epoch ep argpp tc inclp nodep np : K) : Dscom K :=
  let snodm := lib.sin nodep
  let cnodm := lib.cos nodep
  let sinomm := lib.sin argpp
  let cosomm := lib.cos argpp
  let sinim := lib.sin inclp
  let cosim := lib.cos inclp
  let emsq := ep * ep
  let betasq := 1.0 - emsq
  let rtemsq := lib.sqrt betasq
  let day := epoch + 18261.5 + tc / 1440.0
  let (lunar, gam) := lunarOrbit lib day cnodm snodm
  let xnoi := 1.0 / np
  let solar : Perturber K :=
    ⟨0.1945905, -0.98088458, 0.91744867, 0.39785416, cnodm, snodm, 2.9864797e-6⟩
  let sun := thirdBody cosim sinim cosomm sinomm ep emsq betasq rtemsq xnoi solar
  let moon := thirdBody cosim sinim cosomm sinomm ep emsq betasq rtemsq xnoi lunar
  { snodm := snodm, cnodm := cnodm, sinim := sinim, cosim := cosim, sinomm := sinomm
    cosomm := cosomm, day := day, em := ep, emsq := emsq, gam := gam, rtemsq := rtemsq, nm := np
    sun := sun, moon := moon, periodics := lunarSolar emsq day gam sun moon }

/-- Resonance with one day is 1, with half a day 2, and none is 0. -/
def resonanceCase (nm em : K) : Int :=
  let irez := if nm < 0.0052359877 ∧ 0.0034906585 < nm then 1 else 0
  if 8.26e-3 ≤ nm ∧ nm ≤ 9.24e-3 ∧ 0.5 ≤ em then 2 else irez

/-- The secular rates of `dsinit`; a node that is nearly fixed does not move. -/
def secularRates (d : Dscom K) (inclm : K) (deep : DeepSpace K) : DeepSpace K :=
  let zns : K := 1.19459e-5
  let znl : K := 1.5835218e-4
  let sun := d.sun
  let moon := d.moon
  let fixed := inclm < 5.2359877e-2 ∨ pi - 5.2359877e-2 < inclm
  let ses := sun.s1 * zns * sun.s5
  let sis := sun.s2 * zns * (sun.z11 + sun.z13)
  let sls := -zns * sun.s3 * (sun.z1 + sun.z3 - 14.0 - 6.0 * d.emsq)
  let sghs := sun.s4 * zns * (sun.z31 + sun.z33 - 6.0)
  let shs := -zns * sun.s2 * (sun.z21 + sun.z23)
  let shs := if fixed then 0 else shs
  let shs := if d.sinim ≠ 0 then shs / d.sinim else shs
  let sgs := sghs - d.cosim * shs
  let sghl := moon.s4 * znl * (moon.z31 + moon.z33 - 6.0)
  let shll := -znl * moon.s2 * (moon.z21 + moon.z23)
  let shll := if fixed then 0 else shll
  { deep with
    dedt := ses + moon.s1 * znl * moon.s5
    didt := sis + moon.s2 * znl * (moon.z11 + moon.z13)
    dmdt := sls - znl * moon.s3 * (moon.z1 + moon.z3 - 14.0 - 6.0 * d.emsq)
    domdt := if d.sinim ≠ 0 then sgs + sghl - d.cosim / d.sinim * shll else sgs + sghl
    dnodt := if d.sinim ≠ 0 then shs + shll / d.sinim else shs }

/-- The functions of the eccentricity for an orbit of half a day. -/
structure EccentricityTerms (K : Type) where
  g201 : K
  g211 : K
  g310 : K
  g322 : K
  g410 : K
  g422 : K
  g520 : K
  g533 : K
  g521 : K
  g532 : K

def eccentricityTerms (em emsq : K) : EccentricityTerms K :=
  let eoc := em * emsq
  let cubic (a b c d : K) : K := a + b * em + c * emsq + d * eoc
  { g201 := -0.306 - (em - 0.64) * 0.440
    g211 := if em ≤ 0.65 then 3.616 - 13.2470 * em + 16.2900 * emsq
      else cubic (-72.099) 331.819 (-508.738) 266.724
    g310 := if em ≤ 0.65 then cubic (-19.302) 117.3900 (-228.4190) 156.5910
      else cubic (-346.844) 1582.851 (-2415.925) 1246.113
    g322 := if em ≤ 0.65 then cubic (-18.9068) 109.7927 (-214.6334) 146.5816
      else cubic (-342.585) 1554.908 (-2366.899) 1215.972
    g410 := if em ≤ 0.65 then cubic (-41.122) 242.6940 (-471.0940) 313.9530
      else cubic (-1052.797) 4758.686 (-7193.992) 3651.957
    g422 := if em ≤ 0.65 then cubic (-146.407) 841.8800 (-1629.014) 1083.4350
      else cubic (-3581.690) 16178.110 (-24462.770) 12422.520
    g520 := if em ≤ 0.65 then cubic (-532.114) 3017.977 (-5740.032) 3708.2760
      else if 0.715 < em then cubic (-5149.66) 29936.92 (-54087.36) 31324.56
      else 1464.74 - 4664.75 * em + 3763.64 * emsq
    g533 := if em < 0.7 then cubic (-919.22770) 4988.6100 (-9064.7700) 5542.21
      else cubic (-37995.780) 161616.52 (-229838.20) 109377.94
    g521 := if em < 0.7 then cubic (-822.71072) 4568.6173 (-8491.4146) 5337.524
      else cubic (-51752.104) 218913.95 (-309468.16) 146349.42
    g532 := if em < 0.7 then cubic (-853.66600) 4690.2500 (-8624.7700) 5341.4
      else cubic (-40023.880) 170470.89 (-242699.48) 115605.82 }

/-- Geopotential resonance for orbits of 12 hours, without `xlamo` and `xfact`. -/
def halfDayTerms (cosim sinim nm aonv : K) (g : EccentricityTerms K) (deep : DeepSpace K) :
    DeepSpace K :=
  let root22 : K := 1.7891679e-6
  let root44 : K := 7.3636953e-9
  let root54 : K := 2.1765803e-9
  let root32 : K := 3.7393792e-7
  let root52 : K := 1.1428639e-7
  let cosisq := cosim * cosim
  let sini2 := sinim * sinim
  let f220 := 0.75 * (1.0 + 2.0 * cosim + cosisq)
  let f221 := 1.5 * sini2
  let f321 := 1.875 * sinim * (1.0 - 2.0 * cosim - 3.0 * cosisq)
  let f322 := -1.875 * sinim * (1.0 + 2.0 * cosim - 3.0 * cosisq)
  let f441 := 35.0 * sini2 * f220
  let f442 := 39.3750 * sini2 * sini2
  let f522 := 9.84375 * sinim * (sini2 * (1.0 - 2.0 * cosim - 5.0 * cosisq) +
    0.33333333 * (-2.0 + 4.0 * cosim + 6.0 * cosisq))
  let f523 := sinim * (4.92187512 * sini2 * (-2.0 - 4.0 * cosim + 10.0 * cosisq) +
    6.56250012 * (1.0 + 2.0 * cosim - 3.0 * cosisq))
  let f542 := 29.53125 * sinim *
    (2.0 - 8.0 * cosim + cosisq * (-12.0 + 8.0 * cosim + 10.0 * cosisq))
  let f543 := 29.53125 * sinim *
    (-2.0 - 8.0 * cosim + cosisq * (12.0 + 8.0 * cosim - 10.0 * cosisq))
  let xno2 := nm * nm
  let ainv2 := aonv * aonv
  let temp1 := 3.0 * xno2 * ainv2
  let temp32 := temp1 * aonv
  let temp44 := temp32 * aonv
  let temp52 := temp44 * aonv
  { deep with
    d2201 := temp1 * root22 * f220 * g.g201
    d2211 := temp1 * root22 * f221 * g.g211
    d3210 := temp32 * root32 * f321 * g.g310
    d3222 := temp32 * root32 * f322 * g.g322
    d4410 := 2.0 * temp44 * root44 * f441 * g.g410
    d4422 := 2.0 * temp44 * root44 * f442 * g.g422
    d5220 := temp52 * root52 * f522 * g.g520
    d5232 := temp52 * root52 * f523 * g.g532
    d5421 := 2.0 * temp52 * root54 * f542 * g.g521
    d5433 := 2.0 * temp52 * root54 * f543 * g.g533 }

/-- Synchronous resonance, without `xlamo` and `xfact`. -/
def synchronousTerms (cosim sinim emsq nm aonv : K) (deep : DeepSpace K) : DeepSpace K :=
  let q22 : K := 1.7891679e-6
  let q31 : K := 2.1460748e-6
  let q33 : K := 2.2123015e-7
  let g200 := 1.0 + emsq * (-2.5 + 0.8125 * emsq)
  let g310 := 1.0 + 2.0 * emsq
  let g300 := 1.0 + emsq * (-6.0 + 6.60937 * emsq)
  let f220 := 0.75 * (1.0 + cosim) * (1.0 + cosim)
  let f311 := 0.9375 * sinim * sinim * (1.0 + 3.0 * cosim) - 0.75 * (1.0 + cosim)
  let f330 := 1.0 + cosim
  let f330 := 1.875 * f330 * f330 * f330
  let del1 := 3.0 * nm * nm * aonv * aonv
  { deep with
    del1 := del1 * f311 * g310 * q31 * aonv
    del2 := 2.0 * del1 * f220 * g200 * q22
    del3 := 3.0 * del1 * f330 * g300 * q33 * aonv }

/-- The rates of gravity that `sgp4init` has computed when it calls `dsinit`. -/
structure Rates (K : Type) where
  mdot : K
  nodedot : K
  xpidot : K

/-- `dsinit`: the fields for deep space, the state of the integrator and the mean elements. -/
def dsinit (xke : K) (d : Dscom K) (t tc : K) (x : Elements K) (no : K) (rates : Rates K)
    (eccsq : K) (mean : Mean K) (deep : DeepSpace K) (integrator : Integrator K) :
    DeepSpace K × Integrator K × Mean K :=
  let rptim : K := 4.37526908801129966e-3
  let irez := resonanceCase mean.nm mean.em
  let deep := secularRates d mean.inclm { deep with irez := irez }
  let dndt : K := 0
  let theta := fmod (deep.gsto + tc * rptim) twopi
  let mean := deepSecular deep t mean
  if irez ≠ 0 then
    let aonv := lib.pow (mean.nm / xke) (2.0 / 3.0)
    let deep :=
      if irez = 2 then
        { halfDayTerms d.cosim d.sinim mean.nm aonv (eccentricityTerms x.ecco eccsq) deep with
          xlamo := fmod (x.mo + x.nodeo + x.nodeo - theta - theta) twopi
          xfact := rates.mdot + deep.dmdt + 2.0 * (rates.nodedot + deep.dnodt - rptim) - no }
      else deep
    let deep :=
      if irez = 1 then
        { synchronousTerms d.cosim d.sinim d.emsq mean.nm aonv deep with
          xlamo := fmod (x.mo + x.nodeo + x.argpo - theta) twopi
          xfact := rates.mdot + rates.xpidot - rptim + deep.dmdt + deep.domdt + deep.dnodt - no }
      else deep
    (deep, ⟨0, deep.xlamo, no⟩, { mean with nm := no + dndt })
  else (deep, integrator, mean)

section Zero

def zeroDeep (gsto : K) : DeepSpace K :=
  { irez := 0, d2201 := 0, d2211 := 0, d3210 := 0, d3222 := 0, d4410 := 0, d4422 := 0, d5220 := 0
    d5232 := 0, d5421 := 0, d5433 := 0, dedt := 0, del1 := 0, del2 := 0, del3 := 0, didt := 0
    dmdt := 0, dnodt := 0, domdt := 0, gsto := gsto, xfact := 0, xlamo := 0 }

def zeroPeriodics : LunarSolar K :=
  { e3 := 0, ee2 := 0, peo := 0, pgho := 0, pho := 0, pinco := 0, plo := 0, se2 := 0, se3 := 0
    sgh2 := 0, sgh3 := 0, sgh4 := 0, sh2 := 0, sh3 := 0, si2 := 0, si3 := 0, sl2 := 0, sl3 := 0
    sl4 := 0, xgh2 := 0, xgh3 := 0, xgh4 := 0, xh2 := 0, xh3 := 0, xi2 := 0, xi3 := 0, xl2 := 0
    xl3 := 0, xl4 := 0, zmol := 0, zmos := 0 }

def zeroIntegrator : Integrator K := ⟨0, 0, 0⟩

/-- The fields of the elements and the constants, and zeros. -/
def zeroNear (c : GravityConstants K) (x : Elements K) (no_unkozai : K) : NearEarth K :=
  { isimp := 0, cc1 := 0, cc4 := 0, cc5 := 0, d2 := 0, d3 := 0, d4 := 0, delmo := 0, eta := 0
    argpdot := 0, omgcof := 0, sinmao := 0, t2cof := 0, t3cof := 0, t4cof := 0, t5cof := 0
    mdot := 0, nodedot := 0, xmcof := 0, nodecf := 0
    bstar := x.bstar, inclo := x.inclo, nodeo := x.nodeo, ecco := x.ecco, argpo := x.argpo
    mo := x.mo, no_unkozai := no_unkozai, radiusearthkm := c.radiusearthkm, xke := c.xke
    j2 := c.j2, j3oj2 := c.j3oj2 }

end Zero

/-- `sfour` and `qzms24`, which are altered for perigees below 156 km. -/
def atmosphere (radiusearthkm rp : K) : K × K :=
  let fourth (q : K) : K := q * q * q * q
  let perige := (rp - 1.0) * radiusearthkm
  if perige < 156.0 then
    let sfour := if perige < 98.0 then 20.0 else perige - 78.0
    (sfour / radiusearthkm + 1.0, fourth ((120.0 - sfour) / radiusearthkm))
  else (78.0 / radiusearthkm + 1.0, fourth ((120.0 - 78.0) / radiusearthkm))

/-- What `sgp4init` has computed before the deep space initialisation. -/
structure NearInit (K : Type) where
  near : NearEarth K
  terms : InclinationTerms K
  rates : Rates K
  tsi : K
  sfour : K

def nearInit (c : GravityConstants K) (x : Elements K) (i : Initl K) : NearInit K :=
  let x2o3 : K := 2.0 / 3.0
  let no := i.no_unkozai
  let ao := i.ao
  let (sfour, qzms24) := atmosphere c.radiusearthkm i.rp
  let pinvsq := 1.0 / i.posq
  let tsi := 1.0 / (ao - sfour)
  let eta := ao * x.ecco * tsi
  let etasq := eta * eta
  let eeta := x.ecco * eta
  let psisq := |1.0 - etasq|
  let coef := qzms24 * lib.pow tsi 4.0
  let coef1 := coef / lib.pow psisq 3.5
  let cc2 := coef1 * no * (ao * (1.0 + 1.5 * etasq + eeta * (4.0 + etasq)) +
    0.375 * c.j2 * tsi / psisq * i.con41 * (8.0 + 3.0 * etasq * (8.0 + etasq)))
  let cc1 := x.bstar * cc2
  let cc3 := if 1.0e-4 < x.ecco then -2.0 * coef * tsi * c.j3oj2 * no * i.sinio / x.ecco else 0
  let x1mth2 := 1.0 - i.cosio2
  let cc4 := 2.0 * no * coef1 * ao * i.omeosq * (eta * (2.0 + 0.5 * etasq) +
    x.ecco * (0.5 + 2.0 * etasq) - c.j2 * tsi / (ao * psisq) *
      (-3.0 * i.con41 * (1.0 - 2.0 * eeta + etasq * (1.5 - 0.5 * eeta)) +
        0.75 * x1mth2 * (2.0 * etasq - eeta * (1.0 + etasq)) * lib.cos (2.0 * x.argpo)))
  let cc5 := 2.0 * coef1 * ao * i.omeosq * (1.0 + 2.75 * (etasq + eeta) + eeta * etasq)
  let cosio4 := i.cosio2 * i.cosio2
  let temp1 := 1.5 * c.j2 * pinvsq * no
  let temp2 := 0.5 * temp1 * c.j2 * pinvsq
  let temp3 := -0.46875 * c.j4 * pinvsq * pinvsq * no
  let mdot := no + 0.5 * temp1 * i.rteosq * i.con41 +
    0.0625 * temp2 * i.rteosq * (13.0 - 78.0 * i.cosio2 + 137.0 * cosio4)
  let argpdot := -0.5 * temp1 * i.con42 +
    0.0625 * temp2 * (7.0 - 114.0 * i.cosio2 + 395.0 * cosio4) +
    temp3 * (3.0 - 36.0 * i.cosio2 + 49.0 * cosio4)
  let xhdot1 := -temp1 * i.cosio
  let nodedot := xhdot1 + (0.5 * temp2 * (4.0 - 19.0 * i.cosio2) +
    2.0 * temp3 * (3.0 - 7.0 * i.cosio2)) * i.cosio
  let omgcof := x.bstar * cc3 * lib.cos x.argpo
  let xmcof := if 1.0e-4 < x.ecco then -x2o3 * coef * x.bstar / eeta else 0
  let temp4 : K := 1.5e-12
  let xlcof :=
    if 1.5e-12 < |i.cosio + 1.0| then
      -0.25 * c.j3oj2 * i.sinio * (3.0 + 5.0 * i.cosio) / (1.0 + i.cosio)
    else -0.25 * c.j3oj2 * i.sinio * (3.0 + 5.0 * i.cosio) / temp4
  let delmotemp := 1.0 + eta * lib.cos x.mo
  { near :=
      { zeroNear c x no with
        isimp := if i.rp < 220.0 / c.radiusearthkm + 1.0 then 1 else 0
        eta := eta, cc1 := cc1, cc4 := cc4, cc5 := cc5, mdot := mdot, argpdot := argpdot
        nodedot := nodedot, omgcof := omgcof, xmcof := xmcof
        nodecf := 3.5 * i.omeosq * xhdot1 * cc1
        t2cof := 1.5 * cc1, delmo := delmotemp * delmotemp * delmotemp, sinmao := lib.sin x.mo }
    terms :=
      { con41 := i.con41, x1mth2 := x1mth2, xlcof := xlcof
        aycof := -0.5 * c.j3oj2 * i.sinio, x7thm1 := 7.0 * i.cosio2 - 1.0 }
    rates := ⟨mdot, nodedot, argpdot + nodedot⟩
    tsi := tsi
    sfour := sfour }

/-- The coefficients for drag that an orbit near the Earth has. -/
def dragTerms (ao tsi sfour : K) (near : NearEarth K) : NearEarth K :=
  let cc1sq := near.cc1 * near.cc1
  let d2 := 4.0 * ao * tsi * cc1sq
  let temp := d2 * tsi * near.cc1 / 3.0
  let d3 := (17.0 * ao + sfour) * temp
  let d4 := 0.5 * temp * ao * tsi * (221.0 * ao + 31.0 * sfour) * near.cc1
  { near with
    d2 := d2
    d3 := d3
    d4 := d4
    t3cof := d2 + 2.0 * cc1sq
    t4cof := 0.25 * (3.0 * d3 + near.cc1 * (12.0 * d2 + 10.0 * cc1sq))
    t5cof := 0.2 * (3.0 * d4 + 12.0 * near.cc1 * d3 + 6.0 * d2 * d2 +
      15.0 * cc1sq * (2.0 * d2 + cc1sq)) }

/-- The deep space initialisation. `dpper` changes nothing while `init` is `'y'`, and the mean
elements of `dsinit` are not used any more. -/
def deepInit (c : GravityConstants K) (epoch : K) (x : Elements K) (i : Initl K)
    (n : NearInit K) (satrec : Elsetrec K) : Elsetrec K :=
  let d := dscom lib epoch x.ecco x.argpo 0 x.inclo x.nodeo i.no_unkozai
  let mean : Mean K := ⟨d.nm, d.em, x.inclo, 0, 0, 0⟩
  let (deep, integrator, _) := dsinit lib c.xke d 0 0 x i.no_unkozai n.rates i.eccsq mean
    satrec.deep satrec.integrator
  { satrec with
    method := 'd'
    near := { satrec.near with isimp := 1 }
    deep := deep
    periodics := d.periodics
    integrator := integrator }

/-- `sgp4init` before its call of `sgp4`; of the record before, only `om` stays. -/
def initialized (whichconst : GravConst) (opsmode : Char) (epoch : K) (x : Elements K)
    (satrec : Elsetrec K) : Elsetrec K :=
  let c := getgravconst lib whichconst
  let i := initl lib c.xke c.j2 x.ecco epoch x.inclo x.no_kozai
  let satrec : Elsetrec K :=
    { error := 0, operationmode := opsmode, method := 'n', t := 0
      near := zeroNear c x i.no_unkozai
      deep := zeroDeep i.gsto
      periodics := zeroPeriodics
      terms := ⟨0, 0, i.con41, 0, 0⟩
      integrator := zeroIntegrator
      averaged := ⟨0, 0, 0, 0, satrec.averaged.om, 0, 0⟩ }
  if 0 ≤ i.omeosq ∨ 0 ≤ i.no_unkozai then
    let n := nearInit lib c x i
    let satrec := { satrec with near := n.near, terms := n.terms }
    let satrec :=
      if 225.0 ≤ 2.0 * pi / i.no_unkozai then deepInit lib c epoch x i n satrec else satrec
    if satrec.near.isimp ≠ 1 then
      { satrec with near := dragTerms i.ao n.tsi n.sfour satrec.near }
    else satrec
  else satrec

def sgp4init (whichconst : GravConst) (opsmode : Char) (epoch : K) (x : Elements K)
    (satrec : Elsetrec K) : Option (Elsetrec K) :=
  (sgp4 lib (initialized lib whichconst opsmode epoch x satrec) 0).map Prod.fst

/-- The call of `sgp4init` at the end of `twoline2rv`, as the mobility asks for it. -/
def initSatellite (r : TwoLineRecord K) (satrec : Elsetrec K) : Option (Elsetrec K) :=
  sgp4init lib .wgs72 'i' (r.jdsatepoch + r.jdsatepochF - 2433281.5)
    ⟨r.bstar, r.ecco, r.argpo, r.inclo, r.mo, r.no_kozai, r.nodeo⟩ satrec

/-! ## The resonances -/

/-- No term of the resonance with half a day. -/
def HalfDayFree (deep : DeepSpace K) : Prop :=
  deep.d2201 = 0 ∧ deep.d2211 = 0 ∧ deep.d3210 = 0 ∧ deep.d3222 = 0 ∧ deep.d4410 = 0 ∧
    deep.d4422 = 0 ∧ deep.d5220 = 0 ∧ deep.d5232 = 0 ∧ deep.d5421 = 0 ∧ deep.d5433 = 0

def SynchronousFree (deep : DeepSpace K) : Prop := deep.del1 = 0 ∧ deep.del2 = 0 ∧ deep.del3 = 0

/-- The terms of one resonance at most. -/
structure OneResonance (deep : DeepSpace K) : Prop where
  irez : deep.irez = 0 ∨ deep.irez = 1 ∨ deep.irez = 2
  halfDay : deep.irez ≠ 2 → HalfDayFree deep
  synchronous : deep.irez ≠ 1 → SynchronousFree deep
  xlamo : |deep.xlamo| < twopi
  none : deep.irez = 0 → deep.xlamo = 0 ∧ deep.xfact = 0

omit [IsStrictOrderedRing K] [FloorRing K] in
theorem resonanceCase_cases (nm em : K) :
    resonanceCase nm em = 0 ∨ resonanceCase nm em = 1 ∨ resonanceCase nm em = 2 := by
  simp only [resonanceCase]
  split_ifs
  · exact .inr (.inr rfl)
  · exact .inr (.inl rfl)
  · exact .inl rfl

theorem abs_fmod_lt (x : K) : |fmod x twopi| < twopi := by
  have hpos : (0 : K) < twopi := twopi_pos
  have hx : x = twopi * (x / twopi) := by
    field_simp
  have hfmod : fmod x twopi = twopi * (x / twopi - SGP4Mobility.trunc (x / twopi)) := by
    rw [fmod, mul_sub, ← hx]
  have hlt : |x / twopi - SGP4Mobility.trunc (x / twopi)| < 1 := by
    rw [SGP4Mobility.trunc]
    split_ifs
    · rw [Int.self_sub_floor, Int.abs_fract]
      exact Int.fract_lt_one _
    · have hle := Int.le_ceil (x / twopi)
      have hceil := Int.ceil_lt_add_one (x / twopi)
      rw [abs_lt]
      constructor <;> linarith
  rw [hfmod, abs_mul, abs_of_pos hpos]
  exact mul_lt_of_lt_one_right hpos hlt

section Dsinit
variable (xke : K) (d : Dscom K) (t tc : K) (x : Elements K) (no : K) (rates : Rates K)
  (eccsq : K) (mean : Mean K) (gsto : K) (integrator : Integrator K)

omit [FloorRing K] in
theorem oneResonance_zeroDeep : OneResonance (zeroDeep gsto) where
  irez := .inl rfl
  halfDay _ := ⟨rfl, rfl, rfl, rfl, rfl, rfl, rfl, rfl, rfl, rfl⟩
  synchronous _ := ⟨rfl, rfl, rfl⟩
  xlamo := by
    rw [zeroDeep, abs_zero]
    exact twopi_pos
  none _ := ⟨rfl, rfl⟩

/-- What `dsinit` leaves in the fields for deep space and in the integrator. -/
structure DsinitSpec (gsto : K) (integrator : Integrator K)
    (r : DeepSpace K × Integrator K × Mean K) : Prop where
  resonance : OneResonance r.1
  gsto : r.1.gsto = gsto
  none : r.1.irez = 0 → r.2.1 = integrator
  atime : integrator.atime = 0 → r.2.1.atime = 0

theorem dsinit_spec : DsinitSpec gsto integrator
    (dsinit lib xke d t tc x no rates eccsq mean (zeroDeep gsto) integrator) := by
  have hzero : |(0 : K)| < twopi := by
    rw [abs_zero]
    exact twopi_pos
  rcases resonanceCase_cases mean.nm mean.em with hcase | hcase | hcase
  · simp only [dsinit, hcase, ne_eq, not_true_eq_false, if_false]
    exact ⟨⟨.inl rfl, fun _ => ⟨rfl, rfl, rfl, rfl, rfl, rfl, rfl, rfl, rfl, rfl⟩,
      fun _ => ⟨rfl, rfl, rfl⟩, hzero, fun _ => ⟨rfl, rfl⟩⟩, rfl, fun _ => rfl, id⟩
  · simp only [dsinit, hcase, ne_eq, one_ne_zero, not_false_eq_true, if_true,
      show ¬(1 : Int) = 2 by decide, if_false]
    exact ⟨⟨.inr (.inl rfl), fun _ => ⟨rfl, rfl, rfl, rfl, rfl, rfl, rfl, rfl, rfl, rfl⟩,
      fun h => absurd rfl h, abs_fmod_lt _, fun h => absurd h one_ne_zero⟩, rfl,
      fun h => absurd h one_ne_zero, fun _ => rfl⟩
  · have htwo : ¬(2 : Int) = 0 := by decide
    simp only [dsinit, hcase, ne_eq, htwo, not_false_eq_true, if_true,
      show ¬(2 : Int) = 1 by decide, if_false]
    exact ⟨⟨.inr (.inr rfl), fun h => absurd rfl h, fun _ => ⟨rfl, rfl, rfl⟩, abs_fmod_lt _,
      fun h => absurd h htwo⟩, rfl, fun h => absurd h htwo, fun _ => rfl⟩

end Dsinit

/-! ## Every run of an initialised record -/

section Runs
variable (whichconst : GravConst) (opsmode : Char) (epoch : K) (x : Elements K)

/-- `initl` for the elements. -/
def auxiliary : Initl K :=
  initl lib (getgravconst lib whichconst).xke (getgravconst lib whichconst).j2 x.ecco epoch x.inclo
    x.no_kozai

/-- A period of at least 225 minutes. -/
def DeepOrbit (i : Initl K) : Prop :=
  (0 ≤ i.omeosq ∨ 0 ≤ i.no_unkozai) ∧ 225.0 ≤ 2.0 * pi / i.no_unkozai

/-- No drag terms beyond the first power of the time. -/
def SimpleDrag (near : NearEarth K) : Prop :=
  near.d2 = 0 ∧ near.d3 = 0 ∧ near.d4 = 0 ∧ near.t3cof = 0 ∧ near.t4cof = 0 ∧ near.t5cof = 0

/-- The theory near the Earth or the one for deep space, and nothing of the other one. -/
structure OneTheory (i : Initl K) (s : Elsetrec K) : Prop where
  method : s.method = 'd' ∧ DeepOrbit i ∨ s.method = 'n' ∧ ¬DeepOrbit i
  nearEarth : s.method = 'n' → s.deep = zeroDeep i.gsto ∧ s.periodics = zeroPeriodics
  deepSpace : s.method = 'd' → s.near.isimp = 1
  drag : s.near.isimp = 1 → SimpleDrag s.near
  resonance : OneResonance s.deep
  integrator : s.deep.irez = 0 → s.integrator = zeroIntegrator
  gsto : s.deep.gsto = i.gsto

theorem deepInit_oneTheory {c : GravityConstants K} {i : Initl K} {n : NearInit K}
    {satrec : Elsetrec K} (horbit : DeepOrbit i) (hdeep : satrec.deep = zeroDeep i.gsto)
    (hint : satrec.integrator = zeroIntegrator) (hdrag : SimpleDrag satrec.near) :
    OneTheory i (deepInit lib c epoch x i n satrec) where
  method := .inl ⟨rfl, horbit⟩
  nearEarth h := absurd h (show ¬ 'd' = 'n' by decide)
  deepSpace _ := rfl
  drag _ := hdrag
  resonance := by
    simp only [deepInit, hdeep]
    exact (dsinit_spec lib _ _ _ _ _ _ _ _ _ _ _).resonance
  integrator := by
    simp only [deepInit, hdeep, hint]
    exact (dsinit_spec lib _ _ _ _ _ _ _ _ _ _ _).none
  gsto := by
    simp only [deepInit, hdeep]
    exact (dsinit_spec lib _ _ _ _ _ _ _ _ _ _ satrec.integrator).gsto

omit [FloorRing K] in
/-- The theory near the Earth, with the fields for deep space still zero. -/
theorem nearEarth_oneTheory {i : Initl K} {s : Elsetrec K} (horbit : ¬DeepOrbit i)
    (hmethod : s.method = 'n') (hdeep : s.deep = zeroDeep i.gsto)
    (hperiodics : s.periodics = zeroPeriodics) (hint : s.integrator = zeroIntegrator)
    (hdrag : s.near.isimp = 1 → SimpleDrag s.near) : OneTheory i s where
  method := .inr ⟨hmethod, horbit⟩
  nearEarth _ := ⟨hdeep, hperiodics⟩
  deepSpace h := absurd (hmethod.symm.trans h) (show ¬ 'n' = 'd' by decide)
  drag := hdrag
  resonance := hdeep ▸ oneResonance_zeroDeep i.gsto
  integrator _ := hint
  gsto := by rw [hdeep]; rfl

theorem initialized_oneTheory (satrec : Elsetrec K) :
    OneTheory (auxiliary lib whichconst epoch x)
      (initialized lib whichconst opsmode epoch x satrec) := by
  have hsimple : ∀ n : NearInit K, n = nearInit lib (getgravconst lib whichconst) x
      (auxiliary lib whichconst epoch x) → SimpleDrag n.near := by
    rintro n rfl
    exact ⟨rfl, rfl, rfl, rfl, rfl, rfl⟩
  by_cases hregular : 0 ≤ (auxiliary lib whichconst epoch x).omeosq ∨
      0 ≤ (auxiliary lib whichconst epoch x).no_unkozai
  · by_cases hperiod : 225.0 ≤ 2.0 * pi / (auxiliary lib whichconst epoch x).no_unkozai
    · have horbit : DeepOrbit (auxiliary lib whichconst epoch x) := ⟨hregular, hperiod⟩
      simp only [auxiliary] at hregular hperiod
      simp only [initialized, hregular, hperiod, if_true]
      split_ifs with hisimp
      · exact absurd rfl hisimp
      · exact deepInit_oneTheory lib epoch x horbit rfl rfl (hsimple _ rfl)
    · have horbit : ¬DeepOrbit (auxiliary lib whichconst epoch x) := fun h => hperiod h.2
      simp only [auxiliary] at hregular hperiod
      simp only [initialized, hregular, hperiod, if_true, if_false]
      split_ifs with hisimp
      · exact nearEarth_oneTheory horbit rfl rfl rfl rfl fun h => absurd h hisimp
      · exact nearEarth_oneTheory horbit rfl rfl rfl rfl fun _ => hsimple _ rfl
  · have horbit : ¬DeepOrbit (auxiliary lib whichconst epoch x) := fun h => hregular h.1
    simp only [auxiliary] at hregular
    simp only [initialized, hregular, if_false]
    exact nearEarth_oneTheory horbit rfl rfl rfl rfl fun _ => ⟨rfl, rfl, rfl, rfl, rfl, rfl⟩

/-- The integrator starts at the epoch, or it has no resonance to integrate. -/
theorem initialized_atime (satrec : Elsetrec K) :
    (initialized lib whichconst opsmode epoch x satrec).integrator.atime = 0 := by
  simp only [initialized, deepInit]
  split_ifs
  all_goals first | rfl | exact (dsinit_spec lib _ _ _ _ _ _ _ _ _ _ _).atime rfl

/-- Whatever the record held before. -/
theorem initialized_continues (old old' : Elsetrec K) :
    Continues lib (initialized lib whichconst opsmode epoch x old)
      (initialized lib whichconst opsmode epoch x old') := by
  have hkept := initialized_atime lib whichconst opsmode epoch x old'
  refine ⟨?_, ?_, ?_, ?_, ?_, fun _ => ?_, Or.inl hkept⟩
  all_goals
    simp only [initialized, deepInit]
    split_ifs <;> rfl

/-- One call. -/
theorem OneTheory.call {i : Initl K} {fresh s : Elsetrec K} (h : OneTheory i s)
    (hcont : Continues lib fresh s) (t : K) :
    ∃ r, sgp4 lib s t = some r ∧ Continues lib fresh r.1 ∧ OneTheory i r.1 := by
  obtain ⟨r, hr, hcont', hint⟩ := continues_sgp4 lib hcont t
  have hmethod : r.1.method = s.method := hcont'.method.trans hcont.method.symm
  have hnear : r.1.near = s.near := hcont'.near.trans hcont.near.symm
  have hdeep : r.1.deep = s.deep := hcont'.deep.trans hcont.deep.symm
  have hperiodics : r.1.periodics = s.periodics := hcont'.periodics.trans hcont.periodics.symm
  refine ⟨r, hr, hcont', ⟨?_, ?_, ?_, ?_, ?_, ?_, ?_⟩⟩
  · rw [hmethod]
    exact h.method
  · rw [hmethod, hdeep, hperiodics]
    exact h.nearEarth
  · rw [hmethod, hnear]
    exact h.deepSpace
  · rw [hnear]
    exact h.drag
  · rw [hdeep]
    exact h.resonance
  · intro hirez
    rw [hdeep] at hirez
    have hfresh : fresh.deep.irez = 0 := hcont.deep ▸ hirez
    rw [hint, integratorAfter, if_neg (fun hres => hres.2 hfresh)]
    exact h.integrator hirez
  · rw [hdeep]
    exact h.gsto

/-- A run that begins with the initialisation. -/
theorem exists_run (old old' : Elsetrec K) (times : List K) :
    ∃ s, (sgp4init lib whichconst opsmode epoch x old').bind (calls lib · times) = some s ∧
      Continues lib (initialized lib whichconst opsmode epoch x old) s ∧
      OneTheory (auxiliary lib whichconst epoch x) s := by
  have hrun : ∀ (times : List K) (s : Elsetrec K),
      Continues lib (initialized lib whichconst opsmode epoch x old) s →
      OneTheory (auxiliary lib whichconst epoch x) s → ∃ u, calls lib s times = some u ∧
        Continues lib (initialized lib whichconst opsmode epoch x old) u ∧
        OneTheory (auxiliary lib whichconst epoch x) u := by
    intro times
    induction times with
    | nil => exact fun s hcont htheory => ⟨s, rfl, hcont, htheory⟩
    | cons t times ih =>
      intro s hcont htheory
      obtain ⟨r, hr, hcont', htheory'⟩ := htheory.call lib hcont t
      obtain ⟨u, hu, hresult⟩ := ih r.1 hcont' htheory'
      refine ⟨u, ?_, hresult⟩
      rw [calls, List.foldlM_cons, hr]
      exact hu
  obtain ⟨r, hr, hcont, htheory⟩ :=
    (initialized_oneTheory lib whichconst opsmode epoch x old').call lib
      (initialized_continues lib whichconst opsmode epoch x old old') 0
  obtain ⟨s, hs, hresult⟩ := hrun times r.1 hcont htheory
  refine ⟨s, ?_, hresult⟩
  rw [sgp4init, hr]
  exact hs

/-- **What a call reports is a matter of the elements and the time alone**: not of the record
before the initialisation, and not of the calls in between. -/
theorem init_outcome (old old' : Elsetrec K) (times times' : List K) (t : K) :
    ∃ s s' r r',
      (sgp4init lib whichconst opsmode epoch x old).bind (calls lib · times) = some s ∧
      (sgp4init lib whichconst opsmode epoch x old').bind (calls lib · times') = some s' ∧
      sgp4 lib s t = some r ∧ sgp4 lib s' t = some r' ∧ SameOutcome r r' := by
  obtain ⟨s, hs, hcont, _⟩ := exists_run lib whichconst opsmode epoch x old old times
  obtain ⟨s', hs', hcont', _⟩ := exists_run lib whichconst opsmode epoch x old old' times'
  obtain ⟨r, r', hr, hr', hsame⟩ := sgp4_same_outcome lib hcont hcont' t
  exact ⟨s, s', r, r', hs, hs', hr, hr', hsame⟩

/-- An orbit over the equator that takes a day. -/
def geostationary : Elements ℝ := ⟨0, 0.001, 0, 0, 0, 0.0043752691, 0⟩

/-- Two records with different contents, one of them called for two days before. -/
theorem init_outcome_geostationary : ∃ s s' r r',
    (sgp4init realMath .wgs72 'i' 27394 geostationary circular).bind (calls realMath · []) =
        some s ∧
      (sgp4init realMath .wgs72 'i' 27394 geostationary synchronous).bind
        (calls realMath · [1440, -1440]) = some s' ∧
      sgp4 realMath s 720 = some r ∧ sgp4 realMath s' 720 = some r' ∧ SameOutcome r r' :=
  init_outcome realMath .wgs72 'i' 27394 geostationary circular synchronous [] [1440, -1440] 720

/-- **Every record of every run has the fields of one theory and of one resonance at most.** -/
theorem one_theory (old : Elsetrec K) (times : List K) :
    ∃ s, (sgp4init lib whichconst opsmode epoch x old).bind (calls lib · times) = some s ∧
      OneTheory (auxiliary lib whichconst epoch x) s := by
  obtain ⟨s, hs, _, htheory⟩ := exists_run lib whichconst opsmode epoch x old old times
  exact ⟨s, hs, htheory⟩

theorem one_theory_geostationary : ∃ s,
    (sgp4init realMath .wgs72 'i' 27394 geostationary circular).bind
        (calls realMath · [1440, -1440]) = some s ∧
      OneTheory (auxiliary realMath .wgs72 27394 geostationary) s :=
  one_theory realMath .wgs72 'i' 27394 geostationary circular [1440, -1440]

end Runs

/-- **What a satellite does is a matter of its element set and the time alone**: not of what ends
the lines, not of the records before, and not of the calls in between. -/
theorem outcome_of_lines (e : ElementSet) {tail1 tail1' tail2 tail2' : List Char}
    (htail1 : Ends tail1) (htail1' : Ends tail1') (htail2 : Ends tail2) (htail2' : Ends tail2')
    (satrec satrec' : TwoLineRecord K) (old old' : Elsetrec K) (times times' : List K) (t : K) :
    ∃ s s' r r',
      ((twoline2rv (e.line1 ++ tail1) (e.line2 ++ tail2) satrec).bind
        (initSatellite lib · old)).bind (calls lib · times) = some s ∧
      ((twoline2rv (e.line1 ++ tail1') (e.line2 ++ tail2') satrec').bind
        (initSatellite lib · old')).bind (calls lib · times') = some s' ∧
      sgp4 lib s t = some r ∧ sgp4 lib s' t = some r' ∧ SameOutcome r r' := by
  rw [twoline2rv_eq e htail1 htail2 satrec, twoline2rv_eq e htail1' htail2' satrec']
  simp only [Option.bind_some, initSatellite]
  obtain ⟨s, hs, hcont, _⟩ := exists_run lib .wgs72 'i' _ _ old old times
  obtain ⟨s', hs', hcont', _⟩ := exists_run lib .wgs72 'i' _ _ old old' times'
  obtain ⟨r, r', hr, hr', hsame⟩ := sgp4_same_outcome lib hcont hcont' t
  exact ⟨s, s', r, r', hs, hs', hr, hr', hsame⟩

/-- With and without a carriage return. -/
theorem outcome_of_lines_spaceVeins1 : ∃ s s' r r',
    ((twoline2rv (spaceVeins1.line1 ++ ['\r']) (spaceVeins1.line2 ++ ['\r']) noRecord).bind
      (initSatellite realMath · circular)).bind (calls realMath · []) = some s ∧
    ((twoline2rv (spaceVeins1.line1 ++ ['\n']) (spaceVeins1.line2 ++ ['\n']) noRecord).bind
      (initSatellite realMath · synchronous)).bind (calls realMath · [1440, -1440]) = some s' ∧
    sgp4 realMath s 720 = some r ∧ sgp4 realMath s' 720 = some r' ∧ SameOutcome r r' :=
  outcome_of_lines realMath spaceVeins1 (ends_cons (by decide) _) (ends_cons (by decide) _)
    (ends_cons (by decide) _) (ends_cons (by decide) _) noRecord noRecord circular synchronous []
    [1440, -1440] 720

end SpaceVeins.SGP4Funcs
