import TorOnion.Hosts.IpAddr
import TorOnion.Library.Containers

/-!
# The hosts file: `networking/t_host.rs`

`parse_hostsfile` reads a hosts file into a map from hosts to addresses, and `replace_host` looks a
host up in it.

A carriage return at the end of a line is white space to the tokens of the line, so where a text is
cut into lines does not matter to the map (`hostEntries_eq`), and the map is a union over the lines
in which later lines win (`lookup_parseHostsfile_append`, `lookup_parseHostsfile_iff`).  Replacing a
host twice is replacing it once (`replaceHost_replaceHost`), as no printed address can be a host of
the map.

Texts are lists of characters.  `lines`, `split_whitespace` and `collect` follow the Rust standard
library.
-/

namespace TorOnion

namespace HostTable

/-! ## The standard library -/

/-- `char::is_whitespace`. -/
def isWhitespace (c : Char) : Bool :=
  let n := c.toNat
  (9 ≤ n && n ≤ 13) || n == 0x20 || n == 0x85 || n == 0xa0 || n == 0x1680 ||
    (0x2000 ≤ n && n ≤ 0x200a) || n == 0x2028 || n == 0x2029 || n == 0x202f || n == 0x205f ||
    n == 0x3000

/-- `split_whitespace`. -/
def splitWhitespace (text : List Char) : List (List Char) :=
  (text.splitOnP isWhitespace).filter fun token => !token.isEmpty

/-- A line without the carriage return of its line ending. -/
def stripCr (line : List Char) : List Char :=
  if line.getLast? = some '\r' then line.dropLast else line

/-- `lines`: what stands before each line feed, and what stands after the last one if that is not
empty. -/
def lines (text : List Char) : List (List Char) :=
  let pieces := text.splitOn '\n'
  let last := pieces.getLast (List.splitOn_ne_nil _ _)
  pieces.dropLast.map stripCr ++ if last = [] then [] else [last]

/-! ## The source -/

/-- `HashMap<String, IpAddr>`. -/
abbrev Table := AList fun _ : List Char => IpAddr

/-- The characters that a host must not contain. -/
def invalid : List Char :=
  ['\x00', '\t', '\n', '\r', ' ', '#', '%', '/', ':', '?', '@', '[', '\\', ']']

/-- The filter of the hosts of a line. -/
def isHost (host : List Char) : Bool :=
  (IpAddr.parseIpv4 host).isNone && !host.any (· ∈ invalid)

/-- The tokens of a line, up to the first `#`. -/
def tokens (line : List Char) : List (List Char) :=
  splitWhitespace (line.takeWhile (· ≠ '#'))

/-- The address of a line and what follows it. -/
def parseLine (line : List Char) : Option (IpAddr × List (List Char)) :=
  match tokens line with
  | [] => none
  | first :: hosts => (IpAddr.parse first).map fun ip => (ip, hosts)

/-- What the iterator yields. -/
def hostEntries (hostsfileContent : List Char) : List (List Char × IpAddr) :=
  ((lines hostsfileContent).filterMap parseLine).flatMap fun (ip, hosts) =>
    (hosts.filter isHost).map fun host => (host, ip)

/-- `parse_hostsfile`. -/
def parseHostsfile (hostsfileContent : List Char) : Table := collect (hostEntries hostsfileContent)

/-- `replace_host`, with the contents of `HOST_TABLE`. -/
def replaceHost (hostTable : Option Table) (host : List Char) : List Char :=
  match hostTable.bind fun table => table.lookup host with
  | none => host
  | some replacedHost => replacedHost.display

/-! ## What it is for -/

/-- The line has the address in front and the host among its other tokens. -/
def ListsHost (line host : List Char) (ip : IpAddr) : Prop :=
  ∃ first hosts, tokens line = first :: hosts ∧ IpAddr.parse first = some ip ∧ host ∈ hosts

/-- The line has no address in front. -/
def Malformed (line : List Char) : Prop :=
  ∀ first hosts, tokens line = first :: hosts → IpAddr.parse first = none

/-- A host that is not an IPv4 literal and contains no forbidden character. -/
def ValidHost (host : List Char) : Prop :=
  IpAddr.parseIpv4 host = none ∧ ∀ c ∈ invalid, c ∉ host

lemma isHost_iff {host : List Char} : isHost host = true ↔ ValidHost host := by
  simp only [isHost, ValidHost, Bool.and_eq_true, Option.isNone_iff_eq_none, Bool.not_eq_true',
    List.any_eq_false, decide_eq_true_eq]
  exact and_congr_right fun _ => ⟨fun h c hc hmem => h c hmem hc, fun h c hmem hc => h c hc hmem⟩

/-! ## Lines -/

/-- What a line contributes to the map. -/
def lineEntries (line : List Char) : List (List Char × IpAddr) :=
  match parseLine line with
  | none => []
  | some (ip, hosts) => (hosts.filter isHost).map fun host => (host, ip)

lemma hostEntries_eq_lines (text : List Char) :
    hostEntries text = (lines text).flatMap lineEntries := by
  rw [hostEntries]
  induction lines text with
  | nil => rfl
  | cons line rest ih =>
      rw [List.filterMap_cons, List.flatMap_cons, ← ih, lineEntries]
      cases parseLine line <;> rfl

lemma splitWhitespace_append_cr (text : List Char) :
    splitWhitespace (text ++ ['\r']) = splitWhitespace text := by
  have hcr : isWhitespace '\r' = true := by decide
  rw [splitWhitespace, List.splitOnP_append_cons _ _ hcr, List.filter_append, List.splitOnP_nil]
  simp [splitWhitespace]

/-- The carriage return of a line ending does not matter: it is white space, or in a comment. -/
lemma tokens_stripCr (line : List Char) : tokens (stripCr line) = tokens line := by
  rw [stripCr]
  split
  · rename_i h
    obtain ⟨text, rfl⟩ := List.getLast?_eq_some_iff.mp h
    rw [List.dropLast_concat, tokens, tokens, List.takeWhile_append]
    split
    · rename_i hlen
      have hself : text.takeWhile (· ≠ '#') = text :=
        (List.takeWhile_prefix _).eq_of_length hlen
      rw [hself]
      exact (splitWhitespace_append_cr text).symm
    · rfl
  · rfl

lemma lineEntries_stripCr (line : List Char) : lineEntries (stripCr line) = lineEntries line := by
  simp only [lineEntries, parseLine, tokens_stripCr]

@[simp] lemma lineEntries_nil : lineEntries [] = [] := by decide

/-- What the lines contribute, for the text cut at the line feeds only. -/
lemma hostEntries_eq (text : List Char) :
    hostEntries text = (text.splitOn '\n').flatMap lineEntries := by
  have hne : text.splitOn '\n' ≠ [] := List.splitOn_ne_nil _ _
  have hlast : (if (text.splitOn '\n').getLast hne = [] then []
      else [(text.splitOn '\n').getLast hne]).flatMap lineEntries =
        lineEntries ((text.splitOn '\n').getLast hne) := by
    split
    · rename_i h
      simp [h]
    · simp
  have hstrip : ((text.splitOn '\n').dropLast.map stripCr).flatMap lineEntries =
      (text.splitOn '\n').dropLast.flatMap lineEntries := by
    simp only [List.flatMap_map, lineEntries_stripCr]
  rw [hostEntries_eq_lines, lines, List.flatMap_append, hlast, hstrip]
  conv_rhs => rw [← List.dropLast_append_getLast hne, List.flatMap_append]
  simp

/-! ## The map -/

lemma listsHost_iff_of_tokens {line first host : List Char} {hosts : List (List Char)} {ip : IpAddr}
    (h : tokens line = first :: hosts) :
    ListsHost line host ip ↔ IpAddr.parse first = some ip ∧ host ∈ hosts := by
  simp [ListsHost, h]

/-- What a line says about a host. -/
lemma lookup_lineEntries_iff {line host : List Char} {ip : IpAddr} :
    (collect (lineEntries line)).lookup host = some ip ↔
      ValidHost host ∧ ListsHost line host ip := by
  rw [lineEntries, parseLine, ← isHost_iff]
  cases htokens : tokens line with
  | nil => simp [ListsHost, htokens]
  | cons first hosts =>
      rw [listsHost_iff_of_tokens htokens]
      cases hparse : IpAddr.parse first with
      | none => simp [hparse]
      | some addr =>
          simp only [hparse, Option.map_some, lookup_collect_map_const, List.mem_filter,
            Option.ite_none_right_eq_some, Option.some.injEq]
          exact ⟨fun ⟨⟨hmem, hhost⟩, hip⟩ => ⟨hhost, hip, hmem⟩,
            fun ⟨hhost, hip, hmem⟩ => ⟨⟨hmem, hhost⟩, hip⟩⟩

/-- The map of two texts, with the second in front. -/
lemma lookup_parseHostsfile_append (A B host : List Char) :
    (parseHostsfile (A ++ '\n' :: B)).lookup host =
      ((parseHostsfile B).lookup host).or ((parseHostsfile A).lookup host) := by
  rw [parseHostsfile, hostEntries_eq, List.splitOn_append_cons_self, List.flatMap_append,
    lookup_collect_append, ← hostEntries_eq, ← hostEntries_eq, parseHostsfile, parseHostsfile]

/-- The last line that lists a host decides. -/
lemma lookup_parseHostsfile_iff {text host : List Char} {ip : IpAddr} :
    (parseHostsfile text).lookup host = some ip ↔
      ValidHost host ∧ ∃ before line after, lines text = before ++ line :: after ∧
        ListsHost line host ip ∧ ∀ later ∈ after, ∀ ip', ¬ ListsHost later host ip' := by
  have hnone : ∀ {line}, ValidHost host → ((collect (lineEntries line)).lookup host = none ↔
      ∀ ip', ¬ ListsHost line host ip') := by
    intro line hvalid
    rw [Option.eq_none_iff_forall_ne_some]
    exact forall_congr' fun ip' => by simp [lookup_lineEntries_iff, hvalid]
  rw [parseHostsfile, hostEntries_eq_lines, lookup_collect_flatMap_iff]
  constructor
  · rintro ⟨before, line, after, heq, hline, hafter⟩
    obtain ⟨hvalid, hlists⟩ := lookup_lineEntries_iff.mp hline
    exact ⟨hvalid, before, line, after, heq, hlists, fun later hlater =>
      (hnone hvalid).mp (hafter later hlater)⟩
  · rintro ⟨hvalid, before, line, after, heq, hlists, hafter⟩
    exact ⟨before, line, after, heq, lookup_lineEntries_iff.mpr ⟨hvalid, hlists⟩,
      fun later hlater => (hnone hvalid).mpr (hafter later hlater)⟩

lemma lineEntries_of_malformed {line : List Char} (h : Malformed line) : lineEntries line = [] := by
  have hparse : parseLine line = none := by
    rw [parseLine]
    cases htokens : tokens line with
    | nil => rfl
    | cons first hosts => simp [h first hosts htokens]
  rw [lineEntries, hparse]

/-- A malformed line can be left out. -/
lemma parseHostsfile_of_malformed {text text' : List Char} {before after : List (List Char)}
    {line : List Char} (htext : lines text = before ++ line :: after)
    (htext' : lines text' = before ++ after) (hline : Malformed line) :
    parseHostsfile text = parseHostsfile text' := by
  rw [parseHostsfile, parseHostsfile, hostEntries_eq_lines, hostEntries_eq_lines, htext, htext',
    List.flatMap_append, List.flatMap_cons, lineEntries_of_malformed hline, List.nil_append,
    List.flatMap_append]

/-- **The hosts file is a union over its lines in which later lines win**, and a malformed line
contributes nothing. -/
theorem parseHostsfile_union :
    (∀ A B host, (parseHostsfile (A ++ '\n' :: B)).lookup host =
      ((parseHostsfile B).lookup host).or ((parseHostsfile A).lookup host)) ∧
    (∀ text host ip, (parseHostsfile text).lookup host = some ip ↔
      ValidHost host ∧ ∃ before line after, lines text = before ++ line :: after ∧
        ListsHost line host ip ∧ ∀ later ∈ after, ∀ ip', ¬ ListsHost later host ip') ∧
    ∀ text text' before line after, lines text = before ++ line :: after →
      lines text' = before ++ after → Malformed line → parseHostsfile text = parseHostsfile text' :=
  ⟨lookup_parseHostsfile_append, fun _ _ _ => lookup_parseHostsfile_iff,
    fun _ _ _ _ _ htext htext' hline => parseHostsfile_of_malformed htext htext' hline⟩

/-! ## Replacing -/

/-- A printed address is no host: an IPv4 address is an IPv4 literal, and an IPv6 address contains a
colon. -/
lemma not_validHost_display (ip : IpAddr) : ¬ ValidHost ip.display := by
  intro h
  cases ip with
  | v4 addr =>
      have hparse := IpAddr.parseIpv4_display addr
      rw [h.1] at hparse
      cases hparse
  | v6 addr => exact h.2 ':' (by decide) (IpAddr.colon_mem_display addr)

lemma lookup_display (content : List Char) (ip : IpAddr) :
    (parseHostsfile content).lookup ip.display = none := by
  rw [Option.eq_none_iff_forall_ne_some]
  intro ip' h
  exact not_validHost_display ip (lookup_parseHostsfile_iff.mp h).1

lemma replaceHost_of_none {table : Table} {host : List Char} (h : table.lookup host = none) :
    replaceHost (some table) host = host := by
  simp [replaceHost, h]

/-- **Replacement never chains**: no printed address is a key of the map, so a second replacement
does nothing. -/
theorem replaceHost_replaceHost (content host : List Char) :
    (∀ ip : IpAddr, ip.display ∉ parseHostsfile content) ∧
      replaceHost (some (parseHostsfile content))
        (replaceHost (some (parseHostsfile content)) host) =
          replaceHost (some (parseHostsfile content)) host := by
  constructor
  · exact fun ip => AList.lookup_eq_none.mp (lookup_display content ip)
  · cases hlookup : (parseHostsfile content).lookup host with
    | none =>
        have hself := replaceHost_of_none hlookup
        rw [hself, hself]
    | some ip =>
        have hip : replaceHost (some (parseHostsfile content)) host = ip.display := by
          simp [replaceHost, hlookup]
        rw [hip, replaceHost_of_none (lookup_display content ip)]

/-- A later line wins, comments and malformed lines are skipped. -/
example : replaceHost
    (some (parseHostsfile "127.0.0.1 foo bar # local\r\n::1\tfoo\nbad foo".toList))
    "foo".toList = "::1".toList := by decide

end HostTable

end TorOnion
