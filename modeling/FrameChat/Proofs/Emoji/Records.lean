import FrameChat.Emoji.File
import FrameChat.Proofs.Message.Spellings

/-!
# Records of clusters

A cluster of one to 255 code points has one record: the count, then each code point in
four bytes.  Every file begins with records, either up to its end or up to a place where
something stands that is no record.  In the first case the file is read, as the clusters
of its records; in the second it is refused, and the place is reported.

* `exists_records`: how a file divides into records and what is left.
* `Table.Lists`: the two ways in which the table of a list of clusters is built.
* `Table.exists_lists_of_table`: every table that is read from a file is one of these.
* `table_or_first_fault`: what a file is read as, or what is reported of it.
-/

namespace FrameChat.Emoji

namespace File

/-- A code point in four bytes. -/
def word (char : Char) : Bytes :=
  Bytes.bigEndian 4 char.toNat

/-- The code points of a cluster behind their count. -/
def record (cluster : List Char) : Bytes :=
  UInt8.ofNat cluster.length :: cluster.flatMap word

/-- The records of clusters, one after the other. -/
def records (clusters : List (List Char)) : Bytes :=
  clusters.flatMap record

/-- A cluster whose code points can be counted in a byte that is not zero. -/
structure Recordable (cluster : List Char) : Prop where
  present : cluster ≠ []
  countable : cluster.length < 256

/-! ## Code points -/

theorem toNat_lt_word (char : Char) : char.toNat < Nat.pow 256 4 := by
  have valid : char.toNat.isValidChar := char.valid
  rcases valid with low | ⟨-, high⟩
  · exact Nat.lt_trans low (by decide)
  · exact Nat.lt_trans high (by decide)

theorem length_flatMap_word (cluster : List Char) :
    (cluster.flatMap word).length = 4 * cluster.length := by
  induction cluster with
  | nil => rfl
  | cons char rest ih =>
      rw [List.flatMap_cons, List.length_append, ih, word, Bytes.length_bigEndian,
        List.length_cons]
      omega

theorem exists_word_eq (char : Char) : ∃ a b c d, word char = [a, b, c, d] := by
  have length : (word char).length = 4 := Bytes.length_bigEndian 4 _
  match word char, length with
  | [a, b, c, d], _ => exact ⟨a, b, c, d, rfl⟩

theorem codePoints?_flatMap_word (cluster : List Char) :
    codePoints? (cluster.flatMap word) = some cluster := by
  induction cluster with
  | nil => rfl
  | cons char rest ih =>
      rcases exists_word_eq char with ⟨a, b, c, d, bytes⟩
      have code : Bytes.ofBigEndian [a, b, c, d] = char.toNat := by
        rw [← bytes, word, Bytes.ofBigEndian_bigEndian_of_lt (toNat_lt_word char)]
      rw [List.flatMap_cons, bytes]
      show codePoints? (a :: b :: c :: d :: rest.flatMap word) = _
      rw [codePoints?, code, ih]
      exact (if_pos char.valid).trans (by rw [Option.map_some, Char.ofNat_toNat])

theorem toNat_ofNat_of_isValidChar {code : Nat} (valid : code.isValidChar) :
    (Char.ofNat code).toNat = code := by
  rw [Char.ofNat, dif_pos valid]
  rfl

/-- Whole groups of four bytes that are read as code points are the words of these. -/
theorem flatMap_word_of_codePoints? {count : Nat} {bytes : Bytes} {cluster : List Char}
    (length : bytes.length = 4 * count) (found : codePoints? bytes = some cluster) :
    bytes = cluster.flatMap word ∧ cluster.length = count := by
  induction count generalizing bytes cluster with
  | zero =>
      obtain rfl := List.eq_nil_of_length_eq_zero length
      cases found
      exact ⟨rfl, rfl⟩
  | succ count ih =>
      match bytes, length with
      | a :: b :: c :: d :: rest, length =>
          rw [codePoints?] at found
          split at found
          case isTrue valid =>
            rcases Option.map_eq_some_iff.mp found with ⟨later, foundLater, rfl⟩
            have short : rest.length = 4 * count := by
              simp only [List.length_cons] at length
              omega
            rcases ih short foundLater with ⟨rfl, rfl⟩
            refine ⟨?_, rfl⟩
            rw [List.flatMap_cons, word, toNat_ofNat_of_isValidChar valid,
              Bytes.bigEndian_ofBigEndian (show [a, b, c, d].length = 4 from rfl)]
            rfl
          case isFalse => cases found

/-! ## Files -/

theorem toNat_count {cluster : List Char} (recordable : Recordable cluster) :
    (UInt8.ofNat cluster.length).toNat = cluster.length := by
  rw [UInt8.toNat_ofNat']
  exact Nat.mod_eq_of_lt recordable.countable

theorem count_ne_zero {cluster : List Char} (recordable : Recordable cluster) :
    UInt8.ofNat cluster.length ≠ 0 := by
  intro zero
  have counted := toNat_count recordable
  rw [zero] at counted
  exact recordable.present (List.eq_nil_of_length_eq_zero counted.symm)

theorem length_record (cluster : List Char) :
    (record cluster).length = 1 + 4 * cluster.length := by
  rw [record, List.length_cons, length_flatMap_word, Nat.add_comm]

theorem records_cons (cluster : List Char) (others : List (List Char)) :
    records (cluster :: others) = record cluster ++ records others :=
  List.flatMap_cons

/-- A record is read as its cluster, and reading goes on behind it. -/
theorem readFrom_record_append {cluster : List Char} (recordable : Recordable cluster)
    (offset : Nat) (rest : Bytes) :
    readFrom offset (record cluster ++ rest) =
      (readFrom (offset + (record cluster).length) rest).map (cluster :: ·) := by
  have words := length_flatMap_word cluster
  have front : (cluster.flatMap word ++ rest).take (4 * cluster.length) =
      cluster.flatMap word := List.take_left' words
  have behind : (cluster.flatMap word ++ rest).drop (4 * cluster.length) = rest :=
    List.drop_left' words
  have enough : ¬ (cluster.flatMap word ++ rest).length < 4 * cluster.length := by
    rw [List.length_append, words]
    omega
  rw [length_record, ← Nat.add_assoc, record, List.cons_append, readFrom,
    toNat_count recordable, if_neg (count_ne_zero recordable), if_neg enough, front,
    codePoints?_flatMap_word, behind]
  dsimp only
  cases readFrom (offset + 1 + 4 * cluster.length) rest <;> rfl

/-- Records are read as their clusters, and reading goes on behind them. -/
theorem readFrom_records_append {clusters : List (List Char)}
    (recordable : ∀ cluster ∈ clusters, Recordable cluster) (offset : Nat) (rest : Bytes) :
    readFrom offset (records clusters ++ rest) =
      (readFrom (offset + (records clusters).length) rest).map (clusters ++ ·) := by
  induction clusters generalizing offset with
  | nil =>
      rw [records, List.flatMap_nil, List.nil_append, List.length_nil, Nat.add_zero]
      cases readFrom offset rest <;> rfl
  | cons cluster others ih =>
      rw [List.forall_mem_cons] at recordable
      rw [records_cons, List.append_assoc, readFrom_record_append recordable.1,
        ih recordable.2, List.length_append, ← Nat.add_assoc]
      cases readFrom (offset + (record cluster).length + (records others).length) rest <;> rfl

/-- Where a count and as many code points stand, there is a record. -/
theorem record_of_codePoints? {count : UInt8} {rest : Bytes} {cluster : List Char}
    (counted : count ≠ 0) (enough : 4 * count.toNat ≤ rest.length)
    (points : codePoints? (rest.take (4 * count.toNat)) = some cluster) :
    Recordable cluster ∧ count :: rest = record cluster ++ rest.drop (4 * count.toNat) := by
  have taken := List.length_take_of_le enough
  rcases flatMap_word_of_codePoints? taken points with ⟨words, size⟩
  refine ⟨⟨?_, ?_⟩, ?_⟩
  · intro none
    rw [none] at size
    exact counted (UInt8.toNat_inj.mp size.symm)
  · rw [size]
    exact count.toNat_lt
  · rw [record, size, UInt8.ofNat_toNat, List.cons_append, ← words, List.take_append_drop]

/-! ## Faults -/

/-- The number in four bytes, so many words into a byte string. -/
def codeAt (bytes : Bytes) (position : Nat) : Nat :=
  Bytes.ofBigEndian ((bytes.drop (4 * position)).take 4)

/-- What is wrong at the front of a byte string that begins with no record. -/
inductive IllFormed : Reason → Bytes → Prop
  | empty (rest : Bytes) : IllFormed .emptyRecord (0 :: rest)
  | truncated {count : UInt8} {rest : Bytes} (counted : count ≠ 0)
      (short : rest.length < 4 * count.toNat) : IllFormed .truncatedRecord (count :: rest)
  | invalid {count : UInt8} {rest : Bytes} (counted : count ≠ 0)
      (enough : 4 * count.toNat ≤ rest.length) {position : Nat}
      (inside : position < count.toNat) (code : ¬ (codeAt rest position).isValidChar) :
      IllFormed .invalidCodePoint (count :: rest)

theorem codeAt_take {bytes : Bytes} {count position : Nat} (inside : position < count) :
    codeAt (bytes.take (4 * count)) position = codeAt bytes position := by
  have whole : min 4 (4 * count - 4 * position) = 4 := by omega
  rw [codeAt, List.drop_take, List.take_take, whole, codeAt]

/-- Words are code points, unless one of them is none. -/
theorem codePoints?_eq_none_iff {count : Nat} {bytes : Bytes}
    (length : bytes.length = 4 * count) :
    codePoints? bytes = none ↔ ∃ position < count, ¬ (codeAt bytes position).isValidChar := by
  induction count generalizing bytes with
  | zero =>
      obtain rfl := List.eq_nil_of_length_eq_zero length
      simp [codePoints?]
  | succ count ih =>
      match bytes, length with
      | a :: b :: c :: d :: rest, length =>
          have first : codeAt (a :: b :: c :: d :: rest) 0 = Bytes.ofBigEndian [a, b, c, d] := rfl
          have later (position : Nat) :
              codeAt (a :: b :: c :: d :: rest) (position + 1) = codeAt rest position := by
            rw [codeAt, Nat.mul_succ]
            rfl
          have short : rest.length = 4 * count := by
            simp only [List.length_cons] at length
            omega
          rw [Nat.exists_lt_succ_left, first]
          simp only [later]
          rw [← ih short, codePoints?]
          split
          case isTrue valid =>
            rw [Option.map_eq_none_iff]
            exact (or_iff_right (not_not_intro valid)).symm
          case isFalse invalid => exact iff_of_true rfl (.inl invalid)

theorem codePoints?_take_eq_none_iff {count : Nat} {bytes : Bytes}
    (enough : 4 * count ≤ bytes.length) :
    codePoints? (bytes.take (4 * count)) = none ↔
      ∃ position < count, ¬ (codeAt bytes position).isValidChar := by
  rw [codePoints?_eq_none_iff (List.length_take_of_le enough)]
  refine exists_congr fun position => and_congr_right fun inside => ?_
  rw [codeAt_take inside]

/-- What is no record is reported where it stands. -/
theorem readFrom_of_illFormed {reason : Reason} {tail : Bytes} (ill : IllFormed reason tail)
    (offset : Nat) : readFrom offset tail = .error ⟨offset, reason⟩ := by
  cases ill with
  | empty rest => rw [readFrom, if_pos rfl]
  | truncated counted short => rw [readFrom, if_neg counted, if_pos short]
  | @invalid count rest counted enough position inside code =>
      have none : codePoints? (rest.take (4 * count.toNat)) = none :=
        (codePoints?_take_eq_none_iff enough).mpr ⟨position, inside, code⟩
      rw [readFrom, if_neg counted, if_neg (Nat.not_lt.mpr enough), none]

/-- A file begins with records, up to its end or up to something that is no record. -/
theorem exists_records (bytes : Bytes) :
    ∃ clusters tail, (∀ cluster ∈ clusters, Recordable cluster) ∧
      bytes = records clusters ++ tail ∧ (tail = [] ∨ ∃ reason, IllFormed reason tail) := by
  match bytes with
  | [] => exact ⟨[], [], nofun, rfl, .inl rfl⟩
  | count :: rest =>
      have here {reason : Reason} (ill : IllFormed reason (count :: rest)) :
          ∃ clusters tail, (∀ cluster ∈ clusters, Recordable cluster) ∧
            count :: rest = records clusters ++ tail ∧
              (tail = [] ∨ ∃ reason, IllFormed reason tail) :=
        ⟨[], count :: rest, nofun, rfl, .inr ⟨reason, ill⟩⟩
      by_cases zero : count = 0
      · subst zero
        exact here (.empty rest)
      by_cases short : rest.length < 4 * count.toNat
      · exact here (.truncated zero short)
      have enough := Nat.not_lt.mp short
      cases points : codePoints? (rest.take (4 * count.toNat)) with
      | none =>
          rcases (codePoints?_take_eq_none_iff enough).mp points with ⟨position, inside, code⟩
          exact here (.invalid zero enough inside code)
      | some cluster =>
          rcases record_of_codePoints? zero enough points with ⟨recordable, front⟩
          rcases exists_records (rest.drop (4 * count.toNat)) with
            ⟨clusters, tail, others, behind, last⟩
          have all := List.forall_mem_cons.mpr ⟨recordable, others⟩
          refine ⟨cluster :: clusters, tail, all, ?_, last⟩
          rw [front, behind, records_cons, List.append_assoc]
termination_by bytes.length
decreasing_by
  simp only [List.length_drop, List.length_cons]
  omega

theorem read_records_append {clusters : List (List Char)}
    (recordable : ∀ cluster ∈ clusters, Recordable cluster) (tail : Bytes) :
    read (records clusters ++ tail) =
      (readFrom (records clusters).length tail).map (clusters ++ ·) := by
  rw [read, readFrom_records_append recordable, Nat.zero_add]

/-- Records are read as their clusters. -/
theorem read_records {clusters : List (List Char)}
    (recordable : ∀ cluster ∈ clusters, Recordable cluster) :
    read (records clusters) = .ok clusters := by
  have whole := read_records_append recordable []
  rw [List.append_nil, readFrom, Except.map, List.append_nil] at whole
  exact whole

/-- What is no record is reported with the length of the records before it. -/
theorem read_of_illFormed {clusters : List (List Char)} {reason : Reason} {tail : Bytes}
    (recordable : ∀ cluster ∈ clusters, Recordable cluster) (ill : IllFormed reason tail) :
    read (records clusters ++ tail) = .error ⟨(records clusters).length, reason⟩ := by
  rw [read_records_append recordable, readFrom_of_illFormed ill]
  rfl

/-- What is read as clusters are their records. -/
theorem records_of_read {bytes : Bytes} {clusters : List (List Char)}
    (found : read bytes = .ok clusters) :
    bytes = records clusters ∧ ∀ cluster ∈ clusters, Recordable cluster := by
  rcases exists_records bytes with ⟨others, tail, recordable, rfl, rfl | ⟨reason, ill⟩⟩
  · rw [List.append_nil, read_records recordable, Except.ok.injEq] at found
    subst found
    exact ⟨List.append_nil _, recordable⟩
  · rw [read_of_illFormed recordable ill] at found
    cases found

/-- What is reported of a file stands behind records. -/
theorem exists_illFormed_of_read {bytes : Bytes} {fault : Fault}
    (found : read bytes = .error fault) :
    ∃ clusters tail, (∀ cluster ∈ clusters, Recordable cluster) ∧
      bytes = records clusters ++ tail ∧ fault.offset = (records clusters).length ∧
        IllFormed fault.reason tail := by
  rcases exists_records bytes with ⟨clusters, tail, recordable, rfl, rfl | ⟨reason, ill⟩⟩
  · rw [List.append_nil, read_records recordable] at found
    cases found
  · rw [read_of_illFormed recordable ill, Except.error.injEq] at found
    subst found
    exact ⟨clusters, tail, recordable, rfl, rfl, ill⟩

end File

namespace Table

/-- The table of a list of clusters, as it is built from the list or read from a file of records. -/
inductive Lists (clusters : List (List Char)) : Table → Prop
  | given : Lists clusters (ofSequences clusters)
  | read {table : Table} (recordable : ∀ cluster ∈ clusters, File.Recordable cluster)
      (found : File.table (File.records clusters) = .ok table) : Lists clusters table

theorem Lists.eq_ofSequences {clusters : List (List Char)} {table : Table}
    (lists : Lists clusters table) : table = ofSequences clusters := by
  cases lists with
  | given => rfl
  | read recordable found =>
      rw [File.table, File.read_records recordable] at found
      exact (Except.ok.inj found).symm

/-- A table that is read from a file is the table of the clusters whose records the file holds. -/
theorem exists_lists_of_table {bytes : Bytes} {table : Table}
    (found : File.table bytes = .ok table) :
    ∃ clusters, bytes = File.records clusters ∧ Lists clusters table := by
  have built := found
  rw [File.table] at built
  split at built
  case h_1 => cases built
  case h_2 clusters read =>
    rcases File.records_of_read read with ⟨rfl, recordable⟩
    exact ⟨clusters, rfl, .read recordable found⟩

/-- A table has all clusters that have code points. -/
theorem size_foldl_add {clusters : List (List Char)}
    (present : ∀ cluster ∈ clusters, cluster ≠ []) (table : Table) :
    (clusters.foldl add table).size = table.size + clusters.length := by
  induction clusters generalizing table with
  | nil => rfl
  | cons cluster others ih =>
      rw [List.forall_mem_cons] at present
      rcases List.exists_cons_of_ne_nil present.1 with ⟨lead, suffix, rfl⟩
      rw [List.foldl_cons, ih present.2, size_add_cons, List.length_cons]
      omega

end Table

namespace File

theorem size_ofSequences {clusters : List (List Char)}
    (recordable : ∀ cluster ∈ clusters, Recordable cluster) :
    (Table.ofSequences clusters).size = clusters.length := by
  have present : ∀ cluster ∈ clusters, cluster ≠ [] :=
    fun cluster member => (recordable cluster member).present
  rw [Table.ofSequences, Table.size_foldl_add present]
  exact Nat.zero_add _

/-- Each cluster takes a count and at least one code point. -/
theorem five_mul_length_le {clusters : List (List Char)}
    (recordable : ∀ cluster ∈ clusters, Recordable cluster) :
    5 * clusters.length ≤ (records clusters).length := by
  induction clusters with
  | nil => exact Nat.zero_le _
  | cons cluster others ih =>
      rw [List.forall_mem_cons] at recordable
      have one := List.length_pos_iff.mpr recordable.1.present
      have more := ih recordable.2
      rw [records_cons, List.length_append, length_record, List.length_cons]
      omega

/--
A file is read exactly if it consists of records, and then as the table of their clusters, of
which there is at most one to five bytes.  It is refused exactly if behind some records, maybe
none, something stands that is no record; the place and what is wrong there are reported.
-/
theorem table_or_first_fault (bytes : Bytes) :
    (∀ result, table bytes = .ok result ↔
      ∃ clusters, (∀ cluster ∈ clusters, Recordable cluster) ∧ bytes = records clusters ∧
        result = Table.ofSequences clusters ∧ result.size = clusters.length ∧
        5 * result.size ≤ bytes.length) ∧
    ∀ fault, table bytes = .error fault ↔
      ∃ clusters tail, (∀ cluster ∈ clusters, Recordable cluster) ∧
        bytes = records clusters ++ tail ∧ fault.offset = (records clusters).length ∧
        IllFormed fault.reason tail := by
  constructor
  · intro result
    constructor
    · intro found
      rw [table] at found
      split at found
      case h_1 => cases found
      case h_2 clusters read =>
        obtain rfl := Except.ok.inj found
        rcases records_of_read read with ⟨rfl, recordable⟩
        have size := size_ofSequences recordable
        refine ⟨clusters, recordable, rfl, rfl, size, ?_⟩
        rw [size]
        exact five_mul_length_le recordable
    · rintro ⟨clusters, recordable, rfl, rfl, -⟩
      rw [table, read_records recordable]
  · intro fault
    constructor
    · intro found
      rw [table] at found
      split at found
      case h_1 other read =>
        obtain rfl := Except.error.inj found
        exact exists_illFormed_of_read read
      case h_2 => cases found
    · rintro ⟨clusters, tail, recordable, rfl, place, ill⟩
      rw [table, read_of_illFormed recordable ill, ← place]

end File

end FrameChat.Emoji
