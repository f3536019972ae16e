import Mathlib.Data.List.Infix
import Mathlib.Data.List.TakeWhile

/-! # Paths of packages

`installd` checks a path before it works on it. The directories are those of `ANDROID_DATA=/data`.
Nothing is a failed `CHECK`. -/

namespace NativeLibs.Cmds

open List

abbrev Path := List Char

inductive StorageFlag where
  | ce
  | de

/-- What the checks read of the device: `ro.debuggable`, and whether `/data/data` is a directory. -/
structure Device where
  debuggable : Bool
  legacyData : Bool

def isValidFilename (name : Path) : Bool :=
  name ≠ [] ∧ name ≠ ['.'] ∧ name ≠ "..".toList ∧ '/' ∉ name

/-- The loop up to a `-`: whether a letter has to come next, and what is left. -/
def packageNameWords : Bool → Path → Option (Bool × Path)
  | front, [] => some (front, [])
  | front, c :: rest =>
    if c = '-' then some (front, c :: rest)
    else if c.isAlpha then packageNameWords false rest
    else if !front && (c.isDigit || c = '_') then packageNameWords front rest
    else if c = '.' then packageNameWords true rest
    else none

def isValidPackageName (name : Path) : Bool :=
  match packageNameWords true name with
  | some (false, suffix) =>
    suffix.all fun c => c.isAlpha || c.isDigit || c = '_' || c = '-' || c = '='
  | _ => false

def createDataPath (device : Device) : Option Path → Option Path
  | none => some "/data".toList
  | some uuid =>
    if uuid = "TEST".toList then if device.debuggable then some "/data/local/tmp".toList else none
    else if isValidFilename uuid then some ("/mnt/expand/".toList ++ uuid)
    else none

section

variable (device : Device) (volume : Option Path) (user : Nat) (package : Path)

/-- The directory of a package with `check_package_name`, by the names below `createDataPath`. -/
def packagePath (names : List Path) : Option Path :=
  if isValidFilename package && isValidPackageName package then
    (createDataPath device volume).map (· ++ (names ++ [package]).flatMap ('/' :: ·))
  else none

def userCeNames : List Path :=
  if volume = none ∧ user = 0 ∧ device.legacyData then ["data".toList]
  else ["user".toList, Nat.toDigits 10 user]

def createDataUserCePackagePath : Option Path :=
  packagePath device volume package (userCeNames device volume user)

def createDataUserDePackagePath : Option Path :=
  packagePath device volume package ["user_de".toList, Nat.toDigits 10 user]

def createDataUserCePackagePathAsUserLink : Option Path :=
  packagePath device volume package ["user".toList, Nat.toDigits 10 user]

def pkgPathMax : Nat := 1024

/-- `userId` is `multiuser_get_user_id`. -/
def appPrivateDir (userId : Nat → Nat) (uid : Nat) : StorageFlag → Option Path
  | .ce => createDataUserCePackagePath device volume (userId uid) package
  | .de => createDataUserDePackagePath device volume (userId uid) package

/-- The directory that the path is compared with last, if it is looked at at all. -/
def comparedDir (path : Path) (userId : Nat → Nat) (uid : Nat) (storageFlag : StorageFlag) :
    Option Path := do
  let dir ← appPrivateDir device volume package userId uid storageFlag
  if dir <+: path then some dir
  else createDataUserCePackagePathAsUserLink device volume (userId uid) package

def validateSecondaryDexPath (path : Path) (userId : Nat → Nat) (uid : Nat)
    (storageFlag : StorageFlag) : Option Bool :=
  if path.head? ≠ some '/' ∨ path.getLast? = some '/' ∨ "/.".toList <:+: path ∨
      pkgPathMax < path.length then some false
  else (comparedDir device volume package path userId uid storageFlag).map fun dir =>
    decide (dir <+: path)

end

/-! ## Components -/

/-- The names of a path without repeated slashes and `.`. -/
def components (path : Path) : List Path :=
  (path.splitOn '/').filter fun name => name ≠ [] ∧ name ≠ ['.']

/-- No name of an accepted path begins with a dot, so none leads up again. -/
def StrictlyInside (dir path : Path) : Prop :=
  ∃ below, components path = components dir ++ below ∧ below ≠ []

variable {device : Device} {volume : Option Path} {userId : Nat → Nat} {user uid : Nat}
  {storageFlag : StorageFlag} {path dir name package : Path}

lemma components_append (path rest : Path) :
    components (path ++ '/' :: rest) = components path ++ components rest := by
  rw [components, splitOn_append_cons_self, filter_append]
  rfl

lemma components_of_filename (valid : isValidFilename name = true) :
    components name = [name] := by
  simp only [isValidFilename, decide_eq_true_eq] at valid
  rw [components, splitOn_eq_singleton valid.2.2.2]
  simp [valid.1, valid.2.1]

lemma components_names (path : Path) (names : List Path) :
    components (path ++ names.flatMap ('/' :: ·)) = components path ++ names.flatMap components := by
  induction names generalizing path with
  | nil => simp
  | cons name rest ih =>
    rw [flatMap_cons, ← append_assoc, ih, components_append, append_assoc, flatMap_cons]

lemma components_ne_nil (ne : path ≠ []) (ends : path.getLast? ≠ some '/')
    (plain : ¬"/.".toList <:+: '/' :: path) : components path ≠ [] := by
  induction path with
  | nil => exact absurd rfl ne
  | cons c rest ih =>
    by_cases slash : c = '/'
    · subst slash
      have drops : components ('/' :: rest) = components rest := components_append [] rest
      rw [drops]
      have more : rest ≠ [] := by
        rintro rfl
        exact ends rfl
      apply ih more
      · rwa [getLast?_cons_of_ne_nil more] at ends
      · exact fun mem => plain (infix_cons mem)
    · have dot : c ≠ '.' := by
        rintro rfl
        exact plain ⟨[], rest, rfl⟩
      cases split : rest.splitOn '/' with
      | nil => simp at split
      | cons first others =>
        simp [components, splitOn_cons_eq_if_modifyHead, slash, split, dot]

lemma splitOn_append (one : '/' ∉ name) :
    (name ++ more).splitOn '/' = (more.splitOn '/').modifyHead (name ++ ·) := by
  induction name with
  | nil => cases split : more.splitOn '/' <;> simp [split]
  | cons c rest ih =>
    simp only [mem_cons, not_or] at one
    rw [cons_append, splitOn_cons_eq_if_modifyHead, ih one.2]
    cases more.splitOn '/' <;> simp [Ne.symm one.1]

/-! ## Package directories -/

def userNames (user : Nat) : List (List Path) :=
  [["data".toList], ["user".toList, Nat.toDigits 10 user], ["user_de".toList, Nat.toDigits 10 user]]

def PackageDir (device : Device) (volume : Option Path) (user : Nat) (package dir : Path) : Prop :=
  ∃ names ∈ userNames user, packagePath device volume package names = some dir

lemma packageDir_of_private
    (made : appPrivateDir device volume package userId uid storageFlag = some dir) :
    PackageDir device volume (userId uid) package dir := by
  cases storageFlag with
  | ce =>
    refine ⟨_, ?_, made⟩
    rw [userCeNames]
    split <;> simp [userNames]
  | de => exact ⟨_, by simp [userNames], made⟩

lemma packageDir_of_compared
    (compared : comparedDir device volume package path userId uid storageFlag = some dir) :
    PackageDir device volume (userId uid) package dir := by
  rcases Option.bind_eq_some_iff.1 compared with ⟨privateDir, isPrivate, chosen⟩
  split_ifs at chosen
  · cases chosen
    exact packageDir_of_private isPrivate
  · exact ⟨_, by simp [userNames], chosen⟩

lemma PackageDir.spec (packageDir : PackageDir device volume user package dir) :
    isValidFilename package = true ∧ ∃ data, createDataPath device volume = some data ∧
      ∃ names ∈ userNames user, dir = data ++ names.flatMap ('/' :: ·) ++ '/' :: package := by
  rcases packageDir with ⟨names, mem, made⟩
  rw [packagePath] at made
  split_ifs at made with check
  rcases Option.map_eq_some_iff.1 made with ⟨data, isData, rfl⟩
  refine ⟨(Bool.and_eq_true_iff.1 check).1, data, isData, names, mem, ?_⟩
  simp

lemma components_digits (user : Nat) :
    components (Nat.toDigits 10 user) = [Nat.toDigits 10 user] := by
  have digit : ∀ c ∈ Nat.toDigits 10 user, c.isDigit = true := fun c mem =>
    Nat.isDigit_of_mem_toDigits (by decide) (by decide) mem
  have slash : '/' ∉ Nat.toDigits 10 user := fun mem => absurd (digit _ mem) (by decide)
  have dot : Nat.toDigits 10 user ≠ ['.'] := fun same =>
    absurd (digit '.' (by rw [same]; simp)) (by decide)
  rw [components, splitOn_eq_singleton slash]
  simp [Nat.toDigits_ne_nil, dot]

lemma components_createDataPath {data : Path} (made : createDataPath device volume = some data) :
    components data = ["data".toList] ∨
      components data = ["data".toList, "local".toList, "tmp".toList] ∨
      ∃ uuid, components data = ["mnt".toList, "expand".toList, uuid] := by
  cases volume with
  | none =>
    cases made
    exact .inl rfl
  | some uuid =>
    simp only [createDataPath] at made
    split_ifs at made with _ _ valid <;> cases made
    · exact .inr (.inl rfl)
    · refine .inr (.inr ⟨uuid, ?_⟩)
      have split : components ("/mnt/expand".toList ++ '/' :: uuid) = _ := components_append _ uuid
      rw [components_of_filename valid] at split
      exact split

/-- Nothing lies in directories of two packages, of whatever users and volumes. -/
lemma PackageDir.eq_of_components (one : PackageDir device volume user package dir)
    (two : PackageDir device volume' user' other otherDir)
    (same : components dir ++ below = components otherDir ++ otherBelow) : package = other := by
  rcases one.spec with ⟨valid, data, isData, names, mem, rfl⟩
  rcases two.spec with ⟨otherValid, otherData, isOtherData, otherNames, otherMem, rfl⟩
  have roots : components "data".toList = ["data".toList] ∧
      components "user".toList = ["user".toList] ∧
      components "user_de".toList = ["user_de".toList] := ⟨rfl, rfl, rfl⟩
  rw [components_append, components_append, components_names, components_names,
    components_of_filename valid, components_of_filename otherValid] at same
  simp only [userNames, mem_cons, not_mem_nil, or_false] at mem otherMem
  rcases components_createDataPath isData with root | root | ⟨uuid, root⟩ <;>
    rcases components_createDataPath isOtherData with otherRoot | otherRoot | ⟨uuid', otherRoot⟩ <;>
    rw [root, otherRoot] at same <;>
    rcases mem with rfl | rfl | rfl <;> rcases otherMem with rfl | rfl | rfl <;>
    simp_all [components_digits]

lemma strictlyInside_iff (packageDir : PackageDir device volume user package dir)
    (starts : dir <+: path) (ends : path.getLast? ≠ some '/') (plain : ¬"/.".toList <:+: path) :
    StrictlyInside dir path ↔ dir ++ ['/'] <+: path := by
  rcases starts with ⟨rest, rfl⟩
  rw [prefix_append_right_inj]
  cases rest with
  | nil => simp [StrictlyInside]
  | cons c more =>
    by_cases slash : c = '/'
    · subst slash
      refine iff_of_true ⟨components more, components_append dir more, ?_⟩ ⟨more, rfl⟩
      have ne : more ≠ [] := by
        rintro rfl
        simp at ends
      apply components_ne_nil ne
      · rwa [getLast?_append_of_ne_nil _ (by simp),
          getLast?_cons_of_ne_nil ne] at ends
      · exact fun mem => plain (mem.trans (suffix_append _ _).isInfix)
    · refine iff_of_false ?_ (by simp [Ne.symm slash])
      rintro ⟨below, same, _⟩
      -- The name behind the root is longer than that of the package.
      rcases packageDir.spec with ⟨valid, data, _, names, _, rfl⟩
      rw [append_assoc, cons_append, components_append, components_append,
        components_of_filename valid, append_assoc, append_cancel_left_eq] at same
      simp only [isValidFilename, decide_eq_true_eq] at valid
      rw [components, splitOn_append valid.2.2.2, splitOn_cons_eq_if_modifyHead] at same
      cases split : more.splitOn '/' with
      | nil => simp at split
      | cons first others =>
        have long : package ++ c :: first ≠ ['.'] := by
          intro one
          have lengths := congrArg length one
          have positive := length_pos_iff.2 valid.1
          simp only [length_append, length_cons, length_nil] at lengths
          omega
        simp [split, slash, long] at same

/-- An accepted path is strictly inside a directory of the package exactly when a slash follows
the directory. Then it is not inside one of another package, of any user and volume. -/
theorem validateSecondaryDexPath_inside_iff (accepted :
      validateSecondaryDexPath device volume package path userId uid storageFlag = some true) :
    ∃ dir, comparedDir device volume package path userId uid storageFlag = some dir ∧
      (StrictlyInside dir path ↔ dir ++ ['/'] <+: path) ∧
      (dir ++ ['/'] <+: path → ∀ other otherVolume otherUid otherFlag otherDir, other ≠ package →
        appPrivateDir device otherVolume other userId otherUid otherFlag = some otherDir →
          ¬StrictlyInside otherDir path) := by
  rw [validateSecondaryDexPath] at accepted
  split_ifs at accepted with rejected
  · cases accepted
  simp only [not_or] at rejected
  rcases Option.map_eq_some_iff.1 accepted with ⟨dir, compared, starts⟩
  have packageDir := packageDir_of_compared compared
  have mem := strictlyInside_iff packageDir (of_decide_eq_true starts) rejected.2.1
    rejected.2.2.1
  refine ⟨dir, compared, mem, ?_⟩
  rintro follows other _ _ otherFlag otherDir ne created ⟨otherBelow, otherNames, _⟩
  rcases mem.2 follows with ⟨below, names, _⟩
  exact ne (packageDir.eq_of_components (packageDir_of_private created)
    (names.symm.trans otherNames)).symm

def pixel : Device := ⟨false, false⟩

theorem validateSecondaryDexPath_inside_iff_own :
    validateSecondaryDexPath pixel none "a".toList "/data/user/0/a/x".toList (· / 100000) 10000
      .ce = some true ∧ StrictlyInside "/data/user/0/a".toList "/data/user/0/a/x".toList := by
  have taken : validateSecondaryDexPath pixel none "a".toList "/data/user/0/a/x".toList
      (· / 100000) 10000 .ce = some true := by
    decide +kernel
  rcases validateSecondaryDexPath_inside_iff taken with ⟨dir, compared, mem, _⟩
  have isDir : comparedDir pixel none "a".toList "/data/user/0/a/x".toList (· / 100000) 10000
      .ce = some "/data/user/0/a".toList := by
    decide +kernel
  cases isDir.symm.trans compared
  exact ⟨taken, mem.2 (by decide +kernel)⟩

/-- A path of the package `ab` is accepted for the package `a`. -/
theorem longer_package_name_accepted :
    validateSecondaryDexPath pixel none "a".toList "/data/user/0/ab/x".toList (· / 100000) 10000
      .ce = some true ∧
      appPrivateDir pixel none "ab".toList (· / 100000) 10000 .ce =
        some "/data/user/0/ab".toList ∧
      StrictlyInside "/data/user/0/ab".toList "/data/user/0/ab/x".toList := by
  refine ⟨by decide +kernel, by decide +kernel, ["x".toList], ?_, by simp⟩
  decide +kernel

end NativeLibs.Cmds
