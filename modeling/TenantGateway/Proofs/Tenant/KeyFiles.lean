import TenantGateway.Proofs.Tenant.Misses
import TenantGateway.Proofs.Text.Ascii
import TenantGateway.Proofs.Text.Blank

/-! A key file gives each fingerprint the record of the last row that counts. A credential finds the
rows in which someone has written its digest, whatever the case of the letters and the white space
around them, and no others. -/
namespace TenantGateway
open Text

namespace Digest.Sha256

private theorem digitChar_plain : ∀ d < 16, (Nat.digitChar d).toLower = Nat.digitChar d ∧
    isBlank (Nat.digitChar d) = false ∧ isBlank (Nat.digitChar d).toUpper = false := by
  decide

private theorem plain_of_mem_hexText {s : String} : ∀ c ∈ (hexText s).toList,
    c.toLower = c ∧ isBlank c = false ∧ isBlank c.toUpper = false := by
  intro c hc
  rw [hexText, String.toList_ofList, List.mem_flatMap] at hc
  obtain ⟨b, -, hc⟩ := hc
  have hb : b.toNat < 256 := b.toNat_lt
  rw [hexByte, List.mem_cons, List.mem_singleton] at hc
  rcases hc with rfl | rfl
  · exact digitChar_plain _ (by omega)
  · exact digitChar_plain _ (by omega)

end Digest.Sha256

namespace Tenant
open Calendar (Timestamp)

/-- A way to write down the digest of a credential. -/
def Spells (credential digest : String) : Prop :=
  ∃ body, Recased (Digest.Sha256.hexText credential).toList body ∧ Pads body digest.toList

private theorem trimmed_of_recased {credential : String} {body : List Char}
    (h : Recased (Digest.Sha256.hexText credential).toList body) : Trimmed body := by
  refine .of_forall_mem (h.forall_mem fun c hc => ?_)
  exact (Digest.Sha256.plain_of_mem_hexText c hc).2

/-- A digest in a file and the digest of a credential meet just where one spells the other. -/
theorem Fingerprint.ofDigest_eq_ofCredential_iff {digest credential : String} :
    ofDigest digest = ofCredential credential ↔ Spells credential digest := by
  have hlower : ∀ c ∈ (Digest.Sha256.hexText credential).toList, c.toLower = c :=
    fun c hc => (Digest.Sha256.plain_of_mem_hexText c hc).1
  rw [ofDigest, ofCredential, Fingerprint.mk.injEq, lowercaseAscii, trim, String.toList_ofList,
    ← String.toList_inj, String.toList_ofList, map_toLower_eq_iff hlower]
  constructor
  · exact fun h => ⟨_, h, pads_trimChars _⟩
  · rintro ⟨body, hbody, hpads⟩
    rwa [trimChars_of_pads hpads (trimmed_of_recased hbody)]

namespace KeyRow

/-- The row's time is over at a moment. -/
def HasExpired (row : KeyRow) (now : Timestamp) : Prop :=
  ∃ last ∈ row.expiresAt, last.seconds < now.seconds ∨
    last.seconds = now.seconds ∧ last.nanos ≤ now.nanos

/-- The row is neither revoked nor expired. -/
def Counts (row : KeyRow) (now : Timestamp) : Prop :=
  row.revoked = false ∧ ¬ row.HasExpired now

private theorem isActive_iff {row : KeyRow} {now : Timestamp} :
    row.isActive now = true ↔ row.Counts now := by
  rw [isActive, Counts, HasExpired, Bool.and_eq_true, Bool.not_eq_true']
  cases row.expiresAt with
  | none => simp
  | some last =>
    simp only [Option.all_some, Timestamp.isBefore, Bool.or_eq_true, Bool.and_eq_true,
      decide_eq_true_eq, beq_iff_eq, Option.mem_some_iff, exists_eq_left']
    refine and_congr_right fun _ => ?_
    omega

end KeyRow

/-- The row is the last one of which a condition holds. -/
def IsLast (p : KeyRow → Prop) (row : KeyRow) (rows : List KeyRow) : Prop :=
  ∃ before after, rows = before ++ row :: after ∧ p row ∧ ∀ other ∈ after, ¬ p other

section

variable {p : KeyRow → Prop} {row : KeyRow} {rows : List KeyRow}

private theorem find?_reverse_eq_some_iff [DecidablePred p] :
    (rows.reverse.find? fun r => p r) = some row ↔ IsLast p row rows := by
  rw [List.find?_eq_some_iff_append, IsLast]
  simp only [decide_eq_true_eq, Bool.not_eq_true', decide_eq_false_iff_not,
    List.reverse_eq_iff]
  constructor
  · rintro ⟨hrow, after, before, rfl, hafter⟩
    refine ⟨before.reverse, after.reverse, by simp, hrow, fun other hother => ?_⟩
    exact hafter other (List.mem_reverse.mp hother)
  · rintro ⟨before, after, rfl, hrow, hafter⟩
    refine ⟨hrow, after.reverse, before.reverse, by simp, fun other hother => ?_⟩
    exact hafter other (List.mem_reverse.mp hother)

/-- Of some rows that satisfy a condition, one is the last. -/
theorem exists_isLast_iff : (∃ row, IsLast p row rows) ↔ ∃ row ∈ rows, p row := by
  classical
  simp only [← find?_reverse_eq_some_iff, ← Option.isSome_iff_exists, List.find?_isSome,
    List.mem_reverse, decide_eq_true_eq]

private theorem IsLast.congr {q : KeyRow → Prop} (h : ∀ row, p row ↔ q row) :
    IsLast p row rows ↔ IsLast q row rows := by
  rw [show p = q from funext fun row => propext (h row)]

/-- A snapshot holds the records of the last rows that count. -/
theorem KeyFile.getElem?_snapshot_eq_some_iff {now : Timestamp} {f : Fingerprint} {r : Record} :
    (KeyFile.snapshot rows now)[f]? = some r ↔
      ∃ row, IsLast (fun row => row.Counts now ∧ row.fingerprint = f) row rows ∧
        row.record = r := by
  classical
  have hput := getElem?_foldl_insert (·.fingerprint) (·.record) (rows.filter (·.isActive now)) ∅ f
  rw [Std.ExtTreeMap.getElem?_empty, Option.or_none, ← List.filter_reverse, List.find?_filter] at hput
  rw [snapshot, hput, Option.map_eq_some_iff]
  simp only [← find?_reverse_eq_some_iff, ← KeyRow.isActive_iff, Bool.decide_and, Bool.decide_eq_true]

end

end Tenant

namespace Simulation.TenantSession
open Tenant

/-- The session looks keys up in a file, at a moment of the calendar. -/
structure Reads (s : TenantSession) (path text : String) (now : Calendar.Timestamp) : Prop where
  source : s.directory.source = .keyFile path (.ok text) now
  sound : s.directory.broken = false

private theorem Reads.fetchOne_eq {s : TenantSession} {path text : String}
    {now : Calendar.Timestamp} (h : s.Reads path text now) (f : Fingerprint) :
    (s.directory.fetchOne f).1 = KeyFile.fetchOne path (.ok text) now f := by
  rw [SlowDirectory.fetchOne, if_neg (by rw [h.sound]; exact Bool.false_ne_true), h.source]
  rfl

end Simulation.TenantSession

namespace Tenant.KeyFile
open Calendar (Timestamp)
open Simulation (TenantSession)

/-- The file has the keys that its rows say at a moment, and callers meet no others. -/
structure Meant (path text : String) (rows : List KeyRow) (now : Timestamp) (keys : Snapshot) :
    Prop where
  fetched : fetchAll path (.ok text) now = .ok keys
  mem_iff : ∀ f, f ∈ keys ↔ ∃ row ∈ rows, row.Counts now ∧ row.fingerprint = f
  record_iff : ∀ f r, keys[f]? = some r ↔
    ∃ row, IsLast (fun row => row.Counts now ∧ row.fingerprint = f) row rows ∧ row.record = r
  one : ∀ f, fetchOne path (.ok text) now f = .ok keys[f]?
  resolved : ∀ (s : TenantSession) (credential : String) (row : KeyRow), s.Reads path text now →
    s.Misses credential → trim credential ≠ "" →
    IsLast (fun row => row.Counts now ∧ Spells (trim credential) row.digest) row rows →
    s.Resolves credential row.record
  invalid : ∀ (s : TenantSession) (credential : String), s.Reads path text now →
    s.Misses credential → trim credential ≠ "" →
    (∀ row ∈ rows, ¬ (row.Counts now ∧ Spells (trim credential) row.digest)) →
    (s.authenticate (some credential)).1 = .denied .invalid

private theorem mem_snapshot_iff {rows : List KeyRow} {now : Timestamp} {f : Fingerprint} :
    f ∈ snapshot rows now ↔ ∃ row ∈ rows, row.Counts now ∧ row.fingerprint = f := by
  rw [← exists_isLast_iff, Std.ExtTreeMap.mem_iff_isSome_getElem?, Option.isSome_iff_exists]
  simp only [getElem?_snapshot_eq_some_iff]
  constructor
  · rintro ⟨_, row, hlast, -⟩
    exact ⟨row, hlast⟩
  · rintro ⟨row, hlast⟩
    exact ⟨_, row, hlast, rfl⟩

/-- A key file means what it says. -/
theorem exists_meant_of_parse {text : String} {rows : List KeyRow} (hparse : parse text = .ok rows)
    (path : String) (now : Timestamp) : ∃ keys, Meant path text rows now keys := by
  have hall : fetchAll path (.ok text) now = .ok (snapshot rows now) := by
    simp only [fetchAll, hparse]
  have hone (f : Fingerprint) : fetchOne path (.ok text) now f = .ok (snapshot rows now)[f]? := by
    rw [fetchOne, hall]
    rfl
  have hspells (credential : String) (row : KeyRow) :
      (row.Counts now ∧ row.fingerprint = .ofCredential credential) ↔
        (row.Counts now ∧ Spells credential row.digest) := by
    rw [KeyRow.fingerprint, Fingerprint.ofDigest_eq_ofCredential_iff]
  refine ⟨snapshot rows now, hall, fun f => mem_snapshot_iff,
    fun f r => getElem?_snapshot_eq_some_iff, hone, ?_, ?_⟩
  · intro s credential row hreads hmiss hblank hlast
    refine TenantSession.resolves_of_misses hmiss hblank ?_
    rw [hreads.fetchOne_eq, hone, getElem?_snapshot_eq_some_iff.mpr ⟨row, ?_, rfl⟩]
    exact (IsLast.congr (hspells _)).mpr hlast
  · intro s credential hreads hmiss hblank hnone
    refine TenantSession.denied_of_misses hmiss hblank ?_
    have hmem : Fingerprint.ofCredential (trim credential) ∉ snapshot rows now := by
      rw [mem_snapshot_iff]
      rintro ⟨row, hrow, hcounts⟩
      exact hnone row hrow ((hspells _ row).mp hcounts)
    rw [hreads.fetchOne_eq, hone, Std.ExtTreeMap.getElem?_eq_none hmem]

/-- The digest of a short credential. -/
def contestedDigest : List Char :=
  (Digest.Sha256.digest "k".toUTF8.toList).flatMap Text.hexByte

/-- The same digest, spelled another way. -/
def contestedSpelling : List Char := ' ' :: contestedDigest.map Char.toUpper ++ ['\t']

def contestedTable (digest : List Char) (members : String) : List Char :=
  "[[keys]]\nfingerprint = '".toList ++ digest ++ "'\n".toList ++ members.toList

/-- One digest in four tables: twice in different spellings, then revoked, then expired. -/
def contestedText : String :=
  String.ofList <|
    contestedTable contestedDigest
      "api_key_id = 'key_1'
organization_id = 'org_1'
requests_per_minute = 1
requests_per_day = 2
" ++
    contestedTable contestedSpelling
      "api_key_id = 'key_2'
organization_id = 'org_2'
requests_per_minute = 3
requests_per_day = 4
" ++
    contestedTable contestedDigest
      "api_key_id = 'key_3'
organization_id = 'org_3'
requests_per_minute = 5
requests_per_day = 6
revoked = true
" ++
    contestedTable contestedDigest
      "api_key_id = 'key_4'
organization_id = 'org_4'
requests_per_minute = 7
requests_per_day = 8
expires_at = '1970-01-01T00:00:00Z'
"

def contestedRow : KeyRow :=
  { digest := String.ofList contestedSpelling
    record := { organization := "org_2", keyId := "key_2", quota := ⟨3, 4, 0⟩ }
    revoked := false
    expiresAt := none }

/-- What stands behind the row. -/
def contestedRest : List KeyRow :=
  [{ digest := String.ofList contestedDigest
     record := { organization := "org_3", keyId := "key_3", quota := ⟨5, 6, 0⟩ }
     revoked := true
     expiresAt := none },
   { digest := String.ofList contestedDigest
     record := { organization := "org_4", keyId := "key_4", quota := ⟨7, 8, 0⟩ }
     revoked := false
     expiresAt := some .epoch }]

def contestedRows : List KeyRow :=
  { digest := String.ofList contestedDigest
    record := { organization := "org_1", keyId := "key_1", quota := ⟨1, 2, 0⟩ }
    revoked := false
    expiresAt := none } :: contestedRow :: contestedRest

def contestedSession : TenantSession :=
  .ofDirectory (.ofSource (.keyFile "keys.toml" (.ok contestedText) .epoch)) 1800 (.ofSeconds 1)

private theorem parse_contestedText : parse contestedText = .ok contestedRows := by
  have hsome : (parse contestedText).toOption = some contestedRows := by
    rw [parse, Toml.decode, Toml.parse?, contestedText, String.toList_ofList]
    decide +kernel
  cases hrows : parse contestedText with
  | error e =>
    rw [hrows] at hsome
    nomatch hsome
  | ok rows =>
    rw [hrows] at hsome
    exact congrArg Except.ok (Option.some.inj hsome)

private theorem spells_contestedRow : Spells "k" contestedRow.digest := by
  refine ⟨contestedDigest.map Char.toUpper, ?_, [' '], ['\t'], ?_, ?_, ?_⟩
  · rw [Digest.Sha256.hexText, String.toList_ofList]
    exact .toUpper _
  · exact List.forall_mem_singleton.mpr rfl
  · exact List.forall_mem_singleton.mpr rfl
  · exact String.toList_ofList

/-- The other spelling counts, for the credential with white space around it. -/
theorem exists_meant_of_parse_contested : parse contestedText = .ok contestedRows ∧
    ∃ keys, Meant "keys.toml" contestedText contestedRows .epoch keys ∧
      contestedSession.Resolves "\tk " contestedRow.record := by
  obtain ⟨keys, hmeant⟩ := exists_meant_of_parse parse_contestedText "keys.toml" .epoch
  have hmiss : contestedSession.Misses "\tk " := by
    change Cache.empty.lookup _ _ = .miss
    rw [Cache.lookup, Cache.empty, Std.ExtTreeMap.getElem?_empty]
  have htrim : trim "\tk " = "k" := by decide
  have hrest : ∀ row ∈ contestedRest, ¬ row.Counts .epoch := by
    simp [contestedRest, KeyRow.Counts, KeyRow.HasExpired]
  have hlast : IsLast (fun row => row.Counts .epoch ∧ Spells "k" row.digest) contestedRow
      contestedRows := by
    refine ⟨[_], contestedRest, rfl, ⟨?_, spells_contestedRow⟩,
      fun row hrow hcounts => hrest row hrow hcounts.1⟩
    simp [contestedRow, KeyRow.Counts, KeyRow.HasExpired]
  refine ⟨parse_contestedText, keys, hmeant, hmeant.resolved _ _ _ ⟨rfl, rfl⟩ hmiss (by decide) ?_⟩
  rwa [htrim]

end Tenant.KeyFile

end TenantGateway
