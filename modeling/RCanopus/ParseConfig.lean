import RCanopus.Usable

/-!
# Reading the configuration file

`parseFromFile` checks that all conversions succeed and that the two ids of the last line are there.
It checks nothing of the sizes of the BGs, so whether the result can be used depends on what the
file declares.

A file is the list of its characters, and each `fscanf` takes a prefix off it. The conversions are
those of the C library; a number outside of `long` becomes the nearest one, as `strtol` has it.
-/

namespace RCanopus

open Cluster

/-! ## Conversions -/

/-- `isspace`. -/
def isSpace (c : Char) : Bool := c == ' ' || decide (9 ≤ c.toNat ∧ c.toNat ≤ 13)

/-- The optional sign of a number, and what follows. -/
def scanSign : List Char → Int × List Char
  | '-' :: f => (-1, f)
  | '+' :: f => (1, f)
  | f => (1, f)

/-- The nearest value of a `long`. -/
def toLong (n : Int) : Int := max (-2 ^ 63) (min n (2 ^ 63 - 1))

/-- `%d` into an integer of `bits` bits. -/
def scanInteger (bits : Nat) (f : List Char) : Option (Int × List Char) :=
  let (sign, f) := scanSign (f.dropWhile isSpace)
  let digits := f.takeWhile Char.isDigit
  if digits.isEmpty then none
  else
    let n := digits.foldl (fun n c => 10 * n + (c.toNat - '0'.toNat)) 0
    some ((toLong (sign * n)).bmod (2 ^ bits), f.dropWhile Char.isDigit)

/-- `%d`. -/
def scanInt : List Char → Option (Int × List Char) := scanInteger 32

/-- `%hd`. -/
def scanShort : List Char → Option (Int × List Char) := scanInteger 16

/-- `%40s`. -/
def scanString (f : List Char) : Option (List Char × List Char) :=
  let f := f.dropWhile isSpace
  let tmpstr := (f.takeWhile fun c => !isSpace c).take 40
  if tmpstr.isEmpty then none else some (tmpstr, f.drop tmpstr.length)

/-! ## The parser -/

/-- What `parseFromFile` returns. -/
structure ParsedConfig where
  requestPerSLPerSecond : Int
  config : Config
  deriving DecidableEq, Repr

section

variable (inetAton : List Char → Option UInt32)

/-- The loop over the SLs of a BG. -/
def parseAddrs : Nat → List Char → Option (List SockAddrIn × List Char)
  | 0, f => some ([], f)
  | n + 1, f => do
    let (tmpstr, f) ← scanString f
    let tmpaddr ← inetAton tmpstr
    let (tmpport, f) ← scanShort f
    let (addr, f) ← parseAddrs n f
    some ({ sinAddr := tmpaddr, sinPort := UInt16.ofInt tmpport } :: addr, f)

/-- The loop over the BGs. -/
def parseBGs : Nat → List Char → Option (List BGInfo × List Char)
  | 0, f => some ([], f)
  | n + 1, f => do
    let (sLnum, f) ← scanInt f
    let (failure, f) ← scanInt f
    let (addr, f) ← parseAddrs inetAton sLnum.toNat f
    let (rgBGInfo, f) ← parseBGs n f
    some ({ failure := failure, addr := addr } :: rgBGInfo, f)

/-- `parseFromFile`, with `none` for `EXCEPTION_INPUT_FORMAT`. -/
def parseFromFile (f : List Char) : Option ParsedConfig := do
  let (requestPerSLPerSecond, f) ← scanInt f
  let (bGnum, f) ← scanInt f
  let (globalFailures, f) ← scanInt f
  let (rgBGInfo, f) ← parseBGs inetAton bGnum.toNat f
  let (bGid, f) ← scanInt f
  let (sLid, _) ← scanInt f
  if bGid < 0 ∨ sLid < 0 then none
  else
    let config : Config :=
      { rgBGInfo := rgBGInfo
        bGid := bGid.toNat
        sLid := sLid.toNat
        globalFailures := globalFailures }
    if bGnum ≤ bGid then none
    else if (config.numSL bGid.toNat : Int) ≤ sLid then none
    else some { requestPerSLPerSecond := requestPerSLPerSecond, config := config }

end

/-! ## What a file declares -/

/-- A file after the lines of some SLs. -/
def skipAddrs : Nat → List Char → Option (List Char)
  | 0, f => some f
  | n + 1, f => do
    let (_, f) ← scanString f
    let (_, f) ← scanShort f
    skipAddrs n f

/-- The first lines of some BGs: the number of SLs and the failures to tolerate. -/
def declaredBGs : Nat → List Char → Option (List (Int × Int))
  | 0, _ => some []
  | n + 1, f => do
    let (sLnum, f) ← scanInt f
    let (failure, f) ← scanInt f
    let f ← skipAddrs sLnum.toNat f
    let rest ← declaredBGs n f
    some ((sLnum, failure) :: rest)

/-- The sizes in a file: the number of SLs and the failures to tolerate of each BG. -/
def declaredSizes (f : List Char) : List (Int × Int) :=
  (do
    let (_, f) ← scanInt f
    let (bGnum, f) ← scanInt f
    let (_, f) ← scanInt f
    declaredBGs bGnum.toNat f : Option (List (Int × Int))).getD []

/-- The sizes in a file that can be used: `Config.Sound` before the file is parsed. -/
structure SoundFile (f : List Char) : Prop where
  failure : ∀ size ∈ declaredSizes f, 0 ≤ size.2 ∧ size.2 < size.1
  payload : (∀ size ∈ declaredSizes f, size.1 ≤ 65535) →
    ∀ size ∈ declaredSizes f, ¬ 4096 ∣ size.1

section

variable {inetAton : List Char → Option UInt32} {f rest : List Char}

theorem parseAddrs_eq {n : Nat} {addr : List SockAddrIn}
    (h : parseAddrs inetAton n f = some (addr, rest)) :
    addr.length = n ∧ skipAddrs n f = some rest := by
  induction n generalizing f addr with
  | zero =>
    cases h
    exact ⟨rfl, rfl⟩
  | succ n ih =>
    simp only [parseAddrs, Option.bind_eq_bind, Option.bind_eq_some_iff, Prod.exists] at h
    obtain ⟨tmpstr, f₁, hstr, tmpaddr, -, tmpport, f₂, hport, addr', f₃, haddr, h⟩ := h
    cases h
    obtain ⟨hlen, hskip⟩ := ih haddr
    refine ⟨congrArg (· + 1) hlen, ?_⟩
    unfold skipAddrs
    simp only [hstr, hport, Option.bind_eq_bind, Option.bind_some, hskip]

theorem parseBGs_eq {n : Nat} {infos : List BGInfo}
    (h : parseBGs inetAton n f = some (infos, rest)) :
    infos.length = n ∧ ∃ sizes, declaredBGs n f = some sizes
      ∧ infos.map (fun info => (info.addr.length, info.failure))
        = sizes.map fun size => (size.1.toNat, size.2) := by
  induction n generalizing f infos with
  | zero =>
    cases h
    exact ⟨rfl, [], rfl, rfl⟩
  | succ n ih =>
    simp only [parseBGs, Option.bind_eq_bind, Option.bind_eq_some_iff, Prod.exists] at h
    obtain ⟨sLnum, f₁, hnum, failure, f₂, hfailure, addr, f₃, haddr, infos', f₄, hinfos, h⟩ := h
    cases h
    obtain ⟨hlen, hskip⟩ := parseAddrs_eq haddr
    obtain ⟨hcount, sizes, hsizes, hmap⟩ := ih hinfos
    refine ⟨congrArg (· + 1) hcount, (sLnum, failure) :: sizes, ?_, ?_⟩
    · unfold declaredBGs
      simp only [hnum, hfailure, hskip, hsizes, Option.bind_eq_bind, Option.bind_some]
    · rw [List.map_cons, List.map_cons, hmap, hlen]

variable {parsed : ParsedConfig} (h : parseFromFile inetAton f = some parsed)

include h

/-- The BGs are of the declared sizes, and the own ids are those of an SL. -/
theorem parseFromFile_eq :
    parsed.config.rgBGInfo.map (fun info => (info.addr.length, info.failure))
        = (declaredSizes f).map (fun size => (size.1.toNat, size.2))
      ∧ parsed.config.bGid < parsed.config.numBG
      ∧ parsed.config.sLid < parsed.config.numSL parsed.config.bGid := by
  simp only [parseFromFile, Option.bind_eq_bind, Option.bind_eq_some_iff, Prod.exists] at h
  obtain ⟨requests, f₁, hrequests, bGnum, f₂, hnum, failures, f₃, hfailures, infos, f₄, hinfos,
    bGid, f₅, -, sLid, f₆, -, h⟩ := h
  obtain ⟨hcount, sizes, hsizes, hmap⟩ := parseBGs_eq hinfos
  have hdeclared : declaredSizes f = sizes := by
    unfold declaredSizes
    simp only [hrequests, hnum, hfailures, hsizes, Option.bind_eq_bind, Option.bind_some,
      Option.getD_some]
  split at h
  · cases h
  split at h
  · cases h
  split at h
  · cases h
  next hids hbg hsl =>
  cases h
  refine ⟨hdeclared ▸ hmap, ?_, by dsimp only; omega⟩
  show bGid.toNat < infos.length
  omega

/-- The sizes of the result are sound when those of the file are. -/
theorem sound_iff : parsed.config.Sound ↔ SoundFile f := by
  -- what holds for all BGs of the configuration holds for all sizes in the file
  have hall : ∀ P : Nat → Int → Prop,
      (∀ b < parsed.config.numBG, P (parsed.config.numSL b) (parsed.config.getF b))
        ↔ ∀ size ∈ declaredSizes f, P size.1.toNat size.2 := fun P => by
    have hmap := (parseFromFile_eq h).1
    have hfile : (∀ size ∈ declaredSizes f, P size.1.toNat size.2)
        ↔ ∀ pair ∈ (declaredSizes f).map (fun size => (size.1.toNat, size.2)),
          P pair.1 pair.2 := by
      rw [List.forall_mem_map]
    rw [hfile, ← hmap, List.forall_mem_map, List.forall_mem_iff_getElem]
    refine forall₂_congr fun b hb => ?_
    unfold Config.numSL Config.getF
    rw [List.getElem?_eq_getElem hb]
    rfl
  have hfailure := hall fun n k => 0 ≤ k ∧ k < (n : Int)
  have hsmall := hall fun n _ => n ≤ 65535
  have hpayload := hall fun n _ => ¬ 4096 ∣ n
  constructor
  · rintro ⟨hf, hp⟩
    have hf := hfailure.mp hf
    refine ⟨fun size hsize => ?_, fun hn size hsize hdvd => ?_⟩
    · have := hf size hsize
      omega
    · have hp := hpayload.mp (hp (hsmall.mpr fun size hsize => by
        have := hn size hsize
        omega))
      have := hf size hsize
      have := hp size hsize
      omega
  · rintro ⟨hf, hp⟩
    refine ⟨hfailure.mpr fun size hsize => ?_, fun hn => hpayload.mpr fun size hsize hdvd => ?_⟩
    · have := hf size hsize
      omega
    · have := hf size hsize
      have := hp (fun size hsize => by
        have := hsmall.mp hn size hsize
        omega) size hsize
      omega

/-- **An accepted file** can be used exactly when the sizes in it are sound. -/
theorem parsed_usable_iff : Usable parsed.config ↔ SoundFile f :=
  usable_iff.trans (sound_iff h)

end

/-! ## Two files -/

/-- `inet_aton` on the only address of the files below. -/
def inetAtonLocalhost (s : List Char) : Option UInt32 :=
  if s = "127.0.0.1".toList then some 0x7F000001 else none

/-- One SL that tolerates a failure. -/
def noEnvoyFile : List Char := "10\n1 0\n1 1\n127.0.0.1 7000\n0 0\n".toList

/-- It is accepted, and its client Preprepares name nobody. -/
theorem noEnvoyFile_not_usable : ¬ ∀ inetAton f parsed, parseFromFile inetAton f = some parsed →
    Usable parsed.config := fun h => by
  have hsizes := (h inetAtonLocalhost noEnvoyFile
    { requestPerSLPerSecond := 10
      config :=
        { rgBGInfo :=
            [{ failure := 1, addr := [{ sinAddr := 0x7F000001, sinPort := 7000 }] }]
          bGid := 0
          sLid := 0
          globalFailures := 0 } } (by decide)).sizes 0 (by decide)
  exact absurd hsizes.2.2 (by decide)

/-- A BG of two SLs and a BG of one, as SL 1 of the first one reads it. -/
def twoBGsFile : List Char :=
  "10\n2 0\n2 1\n127.0.0.1 7000\n127.0.0.1 7001\n1 0\n127.0.0.1 7002\n0 1\n".toList

theorem twoBGsFile_usable : ∃ parsed, parseFromFile inetAtonLocalhost twoBGsFile = some parsed
    ∧ parsed.config.numBG = 2 ∧ Usable parsed.config := by
  have hfile : (parseFromFile inetAtonLocalhost twoBGsFile).map (·.config.numBG) = some 2 := by
    decide +kernel
  obtain ⟨parsed, hparsed, hnum⟩ := Option.map_eq_some_iff.mp hfile
  have hsizes : declaredSizes twoBGsFile = [(2, 1), (1, 0)] := by decide +kernel
  refine ⟨parsed, hparsed, hnum, (parsed_usable_iff hparsed).mpr ⟨?_, fun _ => ?_⟩⟩
  · rw [hsizes]
    decide
  · rw [hsizes]
    decide

end RCanopus
