import ClusterClient.Proofs.Escaping
import ClusterClient.Proofs.SameRequest
import Mathlib.Data.List.TakeWhile

namespace ClusterClient

open Text.Percent (encode encodeChars decode? toList_encode decode?_encodeChars encodeChars_ne)

theorem Node.getLast?_baseUrl (n : Node) : n.baseUrl.toList.getLast? ≠ some '/' := by
  rw [baseUrl, dropSlashes, String.toList_ofList, List.getLast?_reverse]
  intro slash
  have other := List.head?_dropWhile_not (· = '/') n.url.toList.reverse
  rw [slash] at other
  simp at other

theorem Node.url_eq_baseUrl (n : Node) :
    ∃ k, n.url.toList = n.baseUrl.toList ++ List.replicate k '/' := by
  let slashes := n.url.toList.reverse.takeWhile (· = '/')
  have every : ∀ c ∈ slashes, c = '/' := by
    intro c member
    simpa using List.mem_takeWhile_imp member
  have split : slashes ++ n.url.toList.reverse.dropWhile (· = '/') = n.url.toList.reverse :=
    List.takeWhile_append_dropWhile
  refine ⟨slashes.length, ?_⟩
  rw [baseUrl, dropSlashes, String.toList_ofList, ← List.reverse_replicate,
    ← List.eq_replicate_of_mem every, ← List.reverse_append, split, List.reverse_reverse]

namespace Descriptor

def query? (d : Descriptor) : Option (List Char) :=
  match (d.route.toList.takeWhile (· ≠ '#')).dropWhile (· ≠ '?') with
  | [] => none
  | _ :: query => some query

def parameters (d : Descriptor) : List (List Char × List Char) :=
  (d.query?.toList.flatMap (·.splitOn '&')).map fun parameter =>
    (parameter.takeWhile (· ≠ '='), (parameter.dropWhile (· ≠ '=')).tail)

theorem toList_withSlash (text : String) : ∃ rest, (withSlash text).toList = '/' :: rest := by
  unfold withSlash
  split
  · rename_i rest slash
    exact ⟨rest, slash⟩
  · exact ⟨text.toList, by rw [String.toList_append]; rfl⟩

variable (name : String)

theorem toList_route_databaseTopology :
    (databaseTopology name).route.toList = "/topology?name=".toList ++ encodeChars name := by
  have text : ("/topology?name=" ++ encode name).toList =
      '/' :: ("topology?name=".toList ++ encodeChars name) := by
    rw [String.toList_append, toList_encode]
    rfl
  simp only [databaseTopology, uncached, serverScoped, new, withSlash, text]
  rfl

theorem query?_databaseTopology :
    (databaseTopology name).query? = some ("name=".toList ++ encodeChars name) := by
  have front : "/topology?name=".toList.all (· ≠ '#') = true := by decide
  have unbroken : (encodeChars name).takeWhile (· ≠ '#') = encodeChars name :=
    List.takeWhile_eq_self_iff.2 (encodeChars_ne name (by decide) rfl)
  rw [query?, toList_route_databaseTopology,
    List.takeWhile_append_of_pos (List.all_eq_true.1 front), unbroken]
  rfl

theorem parameters_databaseTopology :
    (databaseTopology name).parameters = [("name".toList, encodeChars name)] := by
  have single : '&' ∉ "name=".toList ++ encodeChars name := by
    intro member
    rcases List.mem_append.1 member with front | inside
    · exact absurd front (by decide)
    · exact of_decide_eq_true (encodeChars_ne name (by decide) rfl _ inside) rfl
  rw [parameters, query?_databaseTopology, Option.toList_some, List.flatMap_singleton,
    List.splitOn_eq_singleton single]
  rfl

end Descriptor

/-- Whether a client resolves a descriptor, whose route was made of some text, in this database. -/
def Client.Resolves (c : Client) (d : Descriptor) (name : String) : Prop :=
  c.databaseFor d = some name ∧ ∃ method text, d.route = (Descriptor.new method text).route

/-- Whether a URL is read as leading to a database and a route on this node: after the base URL
and `/databases/` the name, percent-encoded, stands up to the next slash, with which the route
begins. -/
def Node.ReadsAs (n : Node) (url name route : String) : Prop :=
  ∃ suffix : List Char, url.toList = n.baseUrl.toList ++ "/databases/".toList ++ suffix ∧
    decode? (suffix.takeWhile (· ≠ '/')) = some name ∧ suffix.dropWhile (· ≠ '/') = route.toList

theorem Node.ReadsAs.unique {n : Node} {url name name' route route' : String}
    (reads : n.ReadsAs url name route) (reads' : n.ReadsAs url name' route') :
    name = name' ∧ route = route' := by
  obtain ⟨suffix, split, decoded, left⟩ := reads
  obtain ⟨suffix', split', decoded', left'⟩ := reads'
  obtain rfl : suffix = suffix' := List.append_cancel_left (split.symm.trans split')
  refine ⟨Option.some.inj (decoded.symm.trans decoded'), ?_⟩
  exact String.toList_inj.1 (left.symm.trans left')

namespace Client

variable {c c' : Client} {call call' : Call} {name name' : String}

theorem Resolves.urlSuffix (resolves : c.Resolves call.descriptor name) :
    c.urlSuffix call.descriptor = "/databases/" ++ encode name ++ call.descriptor.route := by
  rw [Client.urlSuffix, resolves.1]

theorem Resolves.readsAs (resolves : c.Resolves call.descriptor name) (etag : Int64)
    (node : Node) :
    node.ReadsAs (c.request call etag node).url name call.descriptor.route := by
  have split : (c.request call etag node).url =
      node.baseUrl ++ ("/databases/" ++ encode name ++ call.descriptor.route) :=
    (c.requestUrl_eq call.descriptor node).trans (congrArg _ resolves.urlSuffix)
  obtain ⟨-, method, text, made⟩ := resolves
  obtain ⟨rest, slash⟩ := Descriptor.toList_withSlash text
  have route : call.descriptor.route.toList = '/' :: rest := by rw [made]; exact slash
  have plain : ∀ c ∈ encodeChars name, decide (c ≠ '/') = true :=
    encodeChars_ne name (by decide) rfl
  refine ⟨encodeChars name ++ '/' :: rest, ?_, ?_, ?_⟩
  · simp only [split, String.toList_append, toList_encode, route, List.append_assoc]
  · rw [List.takeWhile_append_of_pos plain, List.takeWhile_cons_of_neg (by simp),
      List.append_nil, decode?_encodeChars]
  · rw [List.dropWhile_append_of_pos plain, List.dropWhile_cons_of_neg (by simp), route]

theorem request_urls_are_unambiguous (resolves : c.Resolves call.descriptor name)
    (resolves' : c'.Resolves call'.descriptor name') (etag etag' : Int64) (node : Node) :
    node.ReadsAs (c.request call etag node).url name call.descriptor.route ∧
      ((c.request call etag node).url = (c'.request call' etag' node).url ↔
        name = name' ∧ call.descriptor.route = call'.descriptor.route) ∧
      (∃ value, (Descriptor.databaseTopology name).parameters = [("name".toList, value)] ∧
        decode? value = some name) ∧
      node.baseUrl.toList.getLast? ≠ some '/' ∧
      ∃ k, node.url.toList = node.baseUrl.toList ++ List.replicate k '/' := by
  have reads := resolves.readsAs etag node
  refine ⟨reads, ⟨?_, ?_⟩, ?_, node.getLast?_baseUrl, node.url_eq_baseUrl⟩
  · intro same
    rw [same] at reads
    exact reads.unique (resolves'.readsAs etag' node)
  · rintro ⟨rfl, same⟩
    change c.requestUrl call.descriptor node = c'.requestUrl call'.descriptor node
    rw [requestUrl_eq, requestUrl_eq, resolves.urlSuffix, resolves'.urlSuffix, same]
  · exact ⟨_, Descriptor.parameters_databaseTopology name, decode?_encodeChars name⟩

def slashed : Client :=
  { Workload.trio.client with settings := { Workload.trio.client.settings with
    source := .database "shop/é" } }

def slashedCall : Call := ⟨.new .put "docs?id=1", none, none, none⟩

def plainCall : Call := ⟨.new .put "/é/docs?id=1", none, none, none⟩

theorem slashed_urls_are_unambiguous :
    slashed.Resolves slashedCall.descriptor "shop/é" ∧
      Workload.trio.client.Resolves plainCall.descriptor "shop" ∧
      (slashed.request slashedCall 5 ⟨"http://a//", "A", none, .member⟩).url ≠
        (Workload.trio.client.request plainCall 5 ⟨"http://a//", "A", none, .member⟩).url := by
  have resolves : slashed.Resolves slashedCall.descriptor "shop/é" :=
    ⟨rfl, .put, "docs?id=1", rfl⟩
  have resolves' : Workload.trio.client.Resolves plainCall.descriptor "shop" :=
    ⟨rfl, .put, "/é/docs?id=1", rfl⟩
  refine ⟨resolves, resolves', fun same => ?_⟩
  have alike := (request_urls_are_unambiguous resolves resolves' 5 5 _).2.1.1 same
  exact absurd alike.1 (by decide)

example : (slashed.request slashedCall 5 ⟨"http://a//", "A", none, .member⟩).url =
    "http://a/databases/shop%2F%C3%A9/docs?id=1" := by
  decide +kernel

end Client

end ClusterClient
