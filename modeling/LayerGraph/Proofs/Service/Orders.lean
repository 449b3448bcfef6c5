import LayerGraph.Proofs.Json.Context
import LayerGraph.Proofs.Json.Reading
import LayerGraph.Proofs.Json.RoundTrip
import LayerGraph.Proofs.Text.Bytes
import LayerGraph.Service.Request
import LayerGraph.Service.Route

/-! # Orders

    What is ordered by a request. The graph of an order was read from JSON, so it holds nothing that
    JSON has no form for (`isJson_graph`). Any text of a list or an object can be made the graph of
    an order: it is read from the body of the request as it is read by itself
    (`ofRequest_programRequest`).
-/

namespace LayerGraph

/-! ### Encodings -/

namespace Json

/-- Bytes that begin with a brace and a quote are in UTF-8, and there is no mark in front. -/
theorem Encoding.detect_object (rest : List UInt8) :
    detect (123 :: 34 :: rest) = (.utf8, 123 :: 34 :: rest) := by
  -- how many bytes there are decides how many of them are looked at
  rcases rest with _ | ⟨_, _ | ⟨_, _⟩⟩ <;> rfl

/-- The bytes of the text of an object are decoded to the text. -/
theorem decode_object (text : String) :
    decode ("\x7b\"" ++ text).toUTF8.toList = .ok ("\x7b\"" ++ text).toList := by
  have hbegin : ("\x7b\"" ++ text).toUTF8.toList = 123 :: 34 :: text.toUTF8.toList := by
    rw [Text.bytes_append, Text.toList_eq]
    rfl
  have hdetect : Encoding.detect ("\x7b\"" ++ text).toUTF8.toList =
      (.utf8, ("\x7b\"" ++ text).toUTF8.toList) := by
    rw [hbegin]
    exact Encoding.detect_object _
  unfold decode
  rw [hdetect]
  dsimp only
  unfold decodeUtf8
  rw [Text.fromUTF8?_bytes]

end Json

namespace Service

section
variable [Stack]

/-! ### Orders -/

theorem Order.isJson_of_content {bytes : List UInt8} {v : Value}
    (h : Order.content bytes = .ok (some v)) : v.isJson = true := by
  unfold Order.content at h
  split at h
  · exact absurd h nofun
  · exact absurd h nofun
  · split at h
    · exact absurd h nofun
    · split at h
      · exact absurd h nofun
      · next hread =>
        obtain rfl := Option.some.inj (Except.ok.inj h)
        exact Json.isJson_of_read hread
      · exact absurd h nofun
      · exact absurd h nofun
      · exact absurd h nofun

/-- An object that is received was read from JSON. -/
theorem Order.isJson_of_received {request : Request} {members : List (Value × Value)}
    (h : Order.received request = .ok (some (.map members))) :
    (Value.map members).isJson = true := by
  unfold Order.received at h
  split at h
  · exact absurd h nofun
  · split at h
    · exact Order.isJson_of_content h
    · exact absurd h nofun

/-- The graph of an order was read from JSON. -/
theorem Order.isJson_graph {request : Request} {order : Order}
    (h : Order.ofRequest request = .ok order) : order.graph.isJson = true := by
  obtain ⟨received, hreceived, h⟩ := Result.bind_eq_ok.1 h
  split at h
  · exact absurd h nofun
  · next members =>
    obtain ⟨graph, hgraph, h⟩ := Result.bind_eq_ok.1 h
    obtain ⟨includeImports, _, h⟩ := Result.bind_eq_ok.1 h
    obtain rfl := Except.ok.inj h
    -- the graph, a mapping or a list, is a member of what was received
    have hmembers := Order.isJson_of_received hreceived
    unfold Order.graphIn at hgraph
    split at hgraph
    · exact absurd hgraph nofun
    · next hfound => exact Except.ok.inj hgraph ▸ Value.isJson_of_member? hfound hmembers
    · next hfound => exact Except.ok.inj hgraph ▸ Value.isJson_of_member? hfound hmembers
    · exact absurd hgraph nofun
  · exact absurd h nofun

end

/-! ### Requests for programs -/

/-- The text in front of the graph in the body of a request. -/
def bodyStart : String := "\x7b\"graph\": "

/-- The text behind the graph in the body of a request. -/
def bodyEnd (includeImports : Bool) : String :=
  ", \"includeImports\": " ++ Json.boolText includeImports ++ "\x7d"

/-- A request for the program of a graph that is given as a text. -/
def programRequest (graph : String) (includeImports : Bool) : Request :=
  { method := "POST"
    address := "/api/translate"
    body := (bodyStart ++ graph ++ bodyEnd includeImports).toUTF8.toList }

/-- A graph is read from the body of a request as it is read by itself. -/
theorem read_body {text : String} {document : Value} (hread : Json.read text.toList = .ok document)
    (includeImports : Bool) :
    Json.read (bodyStart ++ text ++ bodyEnd includeImports).toList =
      .ok (.ofEntries [("graph", document), ("includeImports", .bool includeImports)]) := by
  have hbegin : bodyStart.toList = '\x7b' :: (Json.stringText "graph" ++ [':', ' ']) := rfl
  have hend : (bodyEnd includeImports).toList = ',' :: ' ' ::
      (Json.stringText "includeImports" ++ ':' :: ' ' ::
        ((Json.boolText includeImports).toList ++ ['\x7d'])) := by
    unfold bodyEnd
    rw [String.toList_append, String.toList_append]
    rfl
  have hseparate : Json.IsSeparate (bodyEnd includeImports).toList := by
    rw [hend]
    rfl
  obtain ⟨rest, hgraph, hrest⟩ :=
    Json.exists_reads_insert hseparate hread (.append _ text.toList)
  rw [hend] at hgraph hrest
  -- the flag is the last member, and the graph stands in front of it
  have hclosing : Json.EndsNumber ['\x7d'] := .mark (by decide)
  have hflag := Json.readsMembers_last
    ((Json.IsReadBack.bool includeImports).reads.behind_blank hclosing) "includeImports"
    (Json.setMember [] "graph" document) (Json.skipBlanks_cons (by decide))
  rw [← hflag.skipBlanks_eq, ← Json.skipBlanks_blank] at hflag
  rw [← Json.skipBlanks_blank] at hgraph
  have hmembers := Json.readsMembers_cons hgraph "graph" hrest hflag
  rw [← hmembers.skipBlanks_eq] at hmembers
  have hmap := Json.Reads.map hmembers
  rw [← hmap.skipBlanks_eq] at hmap
  have hset : Json.setMember (Json.setMember [] "graph" document) "includeImports"
      (.bool includeImports) =
        [("graph", document), ("includeImports", .bool includeImports)] := rfl
  rw [hset] at hmap
  rw [String.toList_append, String.toList_append, hbegin, hend]
  simpa using Json.read_of_reads hmap rfl

/-- What is received with a request for the program of a graph. -/
theorem received_programRequest {text : String} {document : Value}
    (hread : Json.read text.toList = .ok document) (includeImports : Bool) :
    Order.received (programRequest text includeImports) =
      .ok (some (.ofEntries [("graph", document), ("includeImports", .bool includeImports)])) := by
  have hbody := read_body hread includeImports
  have hbegin : bodyStart ++ text ++ bodyEnd includeImports =
      "\x7b\"" ++ ("graph\": " ++ text ++ bodyEnd includeImports) := by
    simp only [bodyStart, ← String.append_assoc]
    rfl
  have hfilled : (bodyStart ++ text ++ bodyEnd includeImports).toUTF8.toList.isEmpty = false := by
    rw [hbegin, Text.bytes_append, Text.toList_eq]
    rfl
  have htype : Order.isJson "application/json" = true := by decide
  have hcontent : Order.content (bodyStart ++ text ++ bodyEnd includeImports).toUTF8.toList =
      .ok (some (.ofEntries [("graph", document), ("includeImports", .bool includeImports)])) := by
    rw [hbegin] at hbody ⊢
    unfold Order.content
    rw [Json.decode_object]
    dsimp only
    rw [hbody]
    rfl
  unfold Order.received programRequest
  dsimp only
  rw [hfilled, htype]
  exact hcontent

/-- What is ordered by a request for the program of a graph. -/
theorem ofRequest_programRequest {text : String} {document : Value}
    (hread : Json.read text.toList = .ok document)
    (hgraph : (∃ items, document = .list items) ∨ ∃ members, document = .map members)
    (includeImports : Bool) :
    Order.ofRequest (programRequest text includeImports) =
      .ok ⟨document, some includeImports⟩ := by
  have hfound : Order.graphIn [(.str "graph", document), (.str "includeImports",
      .bool includeImports)] = .ok document := by
    rcases hgraph with ⟨items, rfl⟩ | ⟨members, rfl⟩
    · rfl
    · rfl
  have hchoice : Order.choiceIn [(.str "graph", document), (.str "includeImports",
      .bool includeImports)] = .ok (some includeImports) := rfl
  refine Result.bind_eq_ok.2 ⟨_, received_programRequest hread includeImports, ?_⟩
  refine Result.bind_eq_ok.2 ⟨document, hfound, ?_⟩
  exact Result.bind_eq_ok.2 ⟨some includeImports, hchoice, rfl⟩

/-- A request for the program of a graph, which is written as JSON. -/
def graphRequest (graph : Value) : Request :=
  programRequest ((Json.write graph).toOption.getD "" ++ "\n") false

/-- A graph without numbers is ordered as it is. -/
theorem ofRequest_graphRequest {layers : List Value} (h : ∀ layer ∈ layers, Json.IsVerbal layer) :
    Order.ofRequest (graphRequest (.list layers)) = .ok ⟨.list layers, some false⟩ := by
  obtain ⟨text, hwritten, hread⟩ := Json.exists_read_write (.list h)
  unfold graphRequest
  rw [hwritten]
  exact ofRequest_programRequest hread (Or.inl ⟨layers, rfl⟩) false

/-- What is ordered by a request for a program is known. -/
theorem not_isOpen_of_order [Stack] {request : Request} {order : Order}
    (h : Order.ofRequest request = .ok order) : ¬request.IsOpen := by
  unfold Request.IsOpen
  rw [h]
  exact nofun

theorem at?_graphRequest (graph : Value) :
    Route.at? (pathOf (graphRequest graph).address) = some .program := by
  show Route.at? (pathOf "/api/translate") = some .program
  decide +kernel

end Service

end LayerGraph
