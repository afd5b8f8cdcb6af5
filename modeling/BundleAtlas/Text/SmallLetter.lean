import BundleAtlas.Text.CharTable

/-!
Small letters of Unicode 14, and the letters that count as one letter when case is ignored.
-/

namespace BundleAtlas.Text

/-- Letters in a row, every one or every other one, whose small letters lie at one distance. -/
structure CaseRun where
  first : Nat
  last : Nat
  step : Nat
  distance : Int
deriving Repr, Inhabited

namespace CaseRun

/-- A run from its text: first and last letter in hexadecimal, step and distance. -/
def ofText (s : String) : CaseRun :=
  match s.splitOn "/" with
  | [range, step, distance] =>
    let (a, b) := CharTable.range range
    ⟨a, b, step.toNat?.getD 1, distance.toInt?.getD 0⟩
  | _ => ⟨1, 0, 1, 0⟩

/-- Whether a run holds a letter. -/
def contains (r : CaseRun) (n : Nat) : Bool :=
  r.first ≤ n && n ≤ r.last && (n - r.first) % r.step == 0

end CaseRun

/-- The runs of letters that have a small letter. -/
def caseRuns : Array CaseRun := (CharTable.words [
    "41-5a/1/32 c0-d6/1/32 d8-de/1/32 100-12e/2/1 130-130/1/-199 132-136/2/1 139-147/2/1 ",
    "14a-176/2/1 178-178/1/-121 179-17d/2/1 181-181/1/210 182-184/2/1 186-186/1/206 187-187/1/1 ",
    "189-18a/1/205 18b-18b/1/1 18e-18e/1/79 18f-18f/1/202 190-190/1/203 191-191/1/1 ",
    "193-193/1/205 194-194/1/207 196-196/1/211 197-197/1/209 198-198/1/1 19c-19c/1/211 ",
    "19d-19d/1/213 19f-19f/1/214 1a0-1a4/2/1 1a6-1a6/1/218 1a7-1a7/1/1 1a9-1a9/1/218 1ac-1ac/1/1 ",
    "1ae-1ae/1/218 1af-1af/1/1 1b1-1b2/1/217 1b3-1b5/2/1 1b7-1b7/1/219 1b8-1b8/1/1 1bc-1bc/1/1 ",
    "1c4-1c4/1/2 1c5-1c5/1/1 1c7-1c7/1/2 1c8-1c8/1/1 1ca-1ca/1/2 1cb-1db/2/1 1de-1ee/2/1 ",
    "1f1-1f1/1/2 1f2-1f4/2/1 1f6-1f6/1/-97 1f7-1f7/1/-56 1f8-21e/2/1 220-220/1/-130 222-232/2/1 ",
    "23a-23a/1/10795 23b-23b/1/1 23d-23d/1/-163 23e-23e/1/10792 241-241/1/1 243-243/1/-195 ",
    "244-244/1/69 245-245/1/71 246-24e/2/1 370-372/2/1 376-376/1/1 37f-37f/1/116 386-386/1/38 ",
    "388-38a/1/37 38c-38c/1/64 38e-38f/1/63 391-3a1/1/32 3a3-3ab/1/32 3cf-3cf/1/8 3d8-3ee/2/1 ",
    "3f4-3f4/1/-60 3f7-3f7/1/1 3f9-3f9/1/-7 3fa-3fa/1/1 3fd-3ff/1/-130 400-40f/1/80 410-42f/1/32 ",
    "460-480/2/1 48a-4be/2/1 4c0-4c0/1/15 4c1-4cd/2/1 4d0-52e/2/1 531-556/1/48 10a0-10c5/1/7264 ",
    "10c7-10c7/1/7264 10cd-10cd/1/7264 13a0-13ef/1/38864 13f0-13f5/1/8 1c90-1cba/1/-3008 ",
    "1cbd-1cbf/1/-3008 1e00-1e94/2/1 1e9e-1e9e/1/-7615 1ea0-1efe/2/1 1f08-1f0f/1/-8 ",
    "1f18-1f1d/1/-8 1f28-1f2f/1/-8 1f38-1f3f/1/-8 1f48-1f4d/1/-8 1f59-1f5f/2/-8 1f68-1f6f/1/-8 ",
    "1f88-1f8f/1/-8 1f98-1f9f/1/-8 1fa8-1faf/1/-8 1fb8-1fb9/1/-8 1fba-1fbb/1/-74 1fbc-1fbc/1/-9 ",
    "1fc8-1fcb/1/-86 1fcc-1fcc/1/-9 1fd8-1fd9/1/-8 1fda-1fdb/1/-100 1fe8-1fe9/1/-8 ",
    "1fea-1feb/1/-112 1fec-1fec/1/-7 1ff8-1ff9/1/-128 1ffa-1ffb/1/-126 1ffc-1ffc/1/-9 ",
    "2126-2126/1/-7517 212a-212a/1/-8383 212b-212b/1/-8262 2132-2132/1/28 2160-216f/1/16 ",
    "2183-2183/1/1 24b6-24cf/1/26 2c00-2c2f/1/48 2c60-2c60/1/1 2c62-2c62/1/-10743 ",
    "2c63-2c63/1/-3814 2c64-2c64/1/-10727 2c67-2c6b/2/1 2c6d-2c6d/1/-10780 2c6e-2c6e/1/-10749 ",
    "2c6f-2c6f/1/-10783 2c70-2c70/1/-10782 2c72-2c72/1/1 2c75-2c75/1/1 2c7e-2c7f/1/-10815 ",
    "2c80-2ce2/2/1 2ceb-2ced/2/1 2cf2-2cf2/1/1 a640-a66c/2/1 a680-a69a/2/1 a722-a72e/2/1 ",
    "a732-a76e/2/1 a779-a77b/2/1 a77d-a77d/1/-35332 a77e-a786/2/1 a78b-a78b/1/1 ",
    "a78d-a78d/1/-42280 a790-a792/2/1 a796-a7a8/2/1 a7aa-a7aa/1/-42308 a7ab-a7ab/1/-42319 ",
    "a7ac-a7ac/1/-42315 a7ad-a7ad/1/-42305 a7ae-a7ae/1/-42308 a7b0-a7b0/1/-42258 ",
    "a7b1-a7b1/1/-42282 a7b2-a7b2/1/-42261 a7b3-a7b3/1/928 a7b4-a7c2/2/1 a7c4-a7c4/1/-48 ",
    "a7c5-a7c5/1/-42307 a7c6-a7c6/1/-35384 a7c7-a7c9/2/1 a7d0-a7d0/1/1 a7d6-a7d8/2/1 ",
    "a7f5-a7f5/1/1 ff21-ff3a/1/32 10400-10427/1/40 104b0-104d3/1/40 10570-1057a/1/39 ",
    "1057c-1058a/1/39 1058c-10592/1/39 10594-10595/1/39 10c80-10cb2/1/64 118a0-118bf/1/32 ",
    "16e40-16e5f/1/32 1e900-1e921/1/34"]).toArray.map CaseRun.ofText

/-- Small letters with others that count as the same. -/
def caseKin : List (Nat × List Nat) := (CharTable.words [
    "69:131 73:17f b5:3bc 131:69 17f:73 345:3b9,1fbe 390:1fd3 3b0:1fe3 3b2:3d0 3b5:3f5 3b8:3d1 ",
    "3b9:345,1fbe 3ba:3f0 3bc:b5 3c0:3d6 3c1:3f1 3c2:3c3 3c3:3c2 3c6:3d5 3d0:3b2 3d1:3b8 3d5:3c6 ",
    "3d6:3c0 3f0:3ba 3f1:3c1 3f5:3b5 432:1c80 434:1c81 43e:1c82 441:1c83 442:1c84,1c85 44a:1c86 ",
    "463:1c87 1c80:432 1c81:434 1c82:43e 1c83:441 1c84:442,1c85 1c85:442,1c84 1c86:44a 1c87:463 ",
    "1c88:a64b 1e61:1e9b 1e9b:1e61 1fbe:345,3b9 1fd3:390 1fe3:3b0 a64b:1c88 fb05:fb06 fb06:fb05"]).map fun s =>
  match s.splitOn ":" with
  | [a, bs] => (CharTable.hex a, (bs.splitOn ",").map CharTable.hex)
  | _ => (0, [])

/-- The small letter of a character; other characters stay. -/
def small (c : Char) : Char :=
  if c.val < 128 then c.toLower
  else match caseRuns.find? (·.contains c.toNat) with
    | some r => Char.ofNat (c.toNat + r.distance).toNat
    | none => c

/-- The small letters that count as the same as a small letter, itself among them. -/
def smallKin (c : Char) : List Char :=
  c :: match caseKin.lookup c.toNat with
    | some ks => ks.map Char.ofNat
    | none => []

/-- The characters whose small letter is the given one. -/
def withSmall (c : Char) : List Char :=
  c :: caseRuns.toList.filterMap fun r =>
    let n := ((c.toNat : Int) - r.distance).toNat
    if r.contains n then some (Char.ofNat n) else none

end BundleAtlas.Text
