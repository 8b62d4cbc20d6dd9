import EntityGraph.Proofs.Bolt.Arrival
import EntityGraph.Proofs.Entity.Conversion
import EntityGraph.Proofs.Outcome
import EntityGraph.Social.Basic
/-!
# Users and posts with what is linked to them

From the server to entities. An entity has one linked entity for every node in
a column of its row, in order and with the identifier of that node; nothing is
linked to these in turn (`Post.isHydrated`, `User.isHydrated`). So what the
database holds arrives whole, by either way to send a statement
(`arrives_fetched`).
-/

namespace EntityGraph.Social

open Bolt (Server SentNode sent? Arrives decodeRow knownColumns client transactionClient)
open Converter (readMetadata)
open Entity (writeField)

/-- A user of whom no more than a node was read. -/
structure User.IsAlone (user : User) (id : String) : Prop where
  id : user.metadata.id = some id
  likedPosts : user.likedPosts = []
  dislikedPosts : user.dislikedPosts = []

/-- A post of which no more than a node was read. -/
structure Post.IsAlone (post : Post) (id : String) : Prop where
  id : post.metadata.id = some id
  likedBy : post.likedBy = []
  dislikedBy : post.dislikedBy = []

theorem User.isAlone_writeField {id : String} {a b : User} {name : String} {v : Value}
    (h : writeField a name v = some b) (ha : a.IsAlone id) : b.IsAlone id := by
  simp only [writeField] at h
  split at h <;> cases h
  · exact ⟨ha.id, ha.likedPosts, ha.dislikedPosts⟩
  · exact ⟨ha.id, ha.likedPosts, ha.dislikedPosts⟩

theorem Post.isAlone_writeField {id : String} {a b : Post} {name : String} {v : Value}
    (h : writeField a name v = some b) (ha : a.IsAlone id) : b.IsAlone id := by
  simp only [writeField] at h
  split at h <;> cases h
  · exact ⟨ha.id, ha.likedBy, ha.dislikedBy⟩
  · exact ⟨ha.id, ha.likedBy, ha.dislikedBy⟩

theorem User.isAlone_fromNode (n : Node) :
    ((Converter.standard User).fromNode n).IsAlone n.id :=
  Converter.fromNodeBy_kept User.isAlone_writeField _ n ⟨rfl, rfl, rfl⟩

theorem Post.isAlone_fromNode (n : Node) :
    ((Converter.standard Post).fromNode n).IsAlone n.id :=
  Converter.fromNodeBy_kept Post.isAlone_writeField _ n ⟨rfl, rfl, rfl⟩

section Rows

variable (columns fields : List String) (values : List Bolt.Value)

/-- The entities of a column: one for every node that the server sent there, in
order. -/
def Gathers {β : Type} (IsAlone : β → String → Prop) (column : String) (entities : List β) :
    Prop :=
  column ∈ columns → ∀ ns : List SentNode,
    sent? fields values column = some (.list (ns.map SentNode.value)) →
    List.Forall₂ (fun n entity => IsAlone entity (toString n.id)) ns entities

/-- A row gives a post for a node, with the users that it holds. -/
def Post.IsHydrated (row : Row) : Prop :=
  ∀ column ∈ columns, ∀ n : SentNode, sent? fields values column = some n.value →
    ∃ post, Post.converter.fromRow row column = .ok post ∧
      post.metadata.id = some (toString n.id) ∧
      Gathers columns fields values User.IsAlone "liked_by_collection" post.likedBy ∧
      Gathers columns fields values User.IsAlone "disliked_by_collection" post.dislikedBy

/-- A row gives a user for a node, with the posts that it holds. -/
def User.IsHydrated (row : Row) : Prop :=
  ∀ column ∈ columns, ∀ n : SentNode, sent? fields values column = some n.value →
    ∃ user, User.converter.fromRow row column = .ok user ∧
      user.metadata.id = some (toString n.id) ∧
      Gathers columns fields values Post.IsAlone "liked_posts_collection" user.likedPosts ∧
      Gathers columns fields values Post.IsAlone "disliked_posts_collection" user.dislikedPosts

variable {columns fields values} {row : Row}

/-- What is read alone from every node is gathered from a row. -/
theorem gathers_relatedEntities {β : Type} [Entity β] {IsAlone : β → String → Prop}
    (halone : ∀ n : Node, IsAlone ((Converter.standard β).fromNode n) n.id)
    (h : Arrives columns fields values row) (column : String) :
    Gathers columns fields values IsAlone column (relatedEntities row column) := by
  intro hmem ns hsent
  rw [relatedEntities, List.forall₂_map_right_iff]
  exact (h.nodes column hmem ns hsent).imp fun n read hread => hread.id ▸ halone read

theorem Post.isHydrated (h : Arrives columns fields values row) :
    Post.IsHydrated columns fields values row := by
  intro column hmem n hsent
  obtain ⟨read, hget, hread⟩ := h.node column hmem n hsent
  obtain ⟨post, hpost, halone⟩ := Converter.fromRowBy_kept (P := (Post.IsAlone · read.id))
    Post.isAlone_writeField (Entity.schema Post) hget ⟨rfl, rfl, rfl⟩
  refine ⟨_, map_eq_ok.2 ⟨post, hpost, rfl⟩, hread.id ▸ halone.id, ?_, ?_⟩
  · exact gathers_relatedEntities User.isAlone_fromNode h _
  · exact gathers_relatedEntities User.isAlone_fromNode h _

theorem User.isHydrated (h : Arrives columns fields values row) :
    User.IsHydrated columns fields values row := by
  intro column hmem n hsent
  obtain ⟨read, hget, hread⟩ := h.node column hmem n hsent
  obtain ⟨user, huser, halone⟩ := Converter.fromRowBy_kept (P := (User.IsAlone · read.id))
    User.isAlone_writeField (Entity.schema User) hget ⟨rfl, rfl, rfl⟩
  refine ⟨_, map_eq_ok.2 ⟨user, huser, rfl⟩, hread.id ▸ halone.id, ?_, ?_⟩
  · exact gathers_relatedEntities Post.isAlone_fromNode h _
  · exact gathers_relatedEntities Post.isAlone_fromNode h _

end Rows

/-- **What the database holds arrives whole.** Every row of a statement that is
accepted shows the nodes, relationships and lists of nodes that the server sent,
and gives users and posts with what is linked to them. -/
theorem arrives_fetched {σ : Type} {server : Server σ} {s : Statement} {state after : σ}
    {columns fields : List String} {table : List (List Bolt.Value)}
    (haccepted : knownColumns s.text = .ok columns)
    (hreply : server.answer (.ofStatement s) state = (.rows fields table false, after)) :
    ∃ rows : List Row, (client server).fetch s state = (.ok (rows.map .ok), after) ∧
      (transactionClient server).fetch s state = (.ok (rows.map .ok), after) ∧
      List.Forall₂ (fun values row => Arrives columns fields values row ∧
        Post.IsHydrated columns fields values row ∧ User.IsHydrated columns fields values row)
        table rows := by
  obtain ⟨hclient, htransaction⟩ := Bolt.fetch_of_rows haccepted hreply
  refine ⟨table.map (decodeRow columns fields), hclient, htransaction, ?_⟩
  rw [List.forall₂_map_right_iff, List.forall₂_same]
  intro values _
  have harrives := Bolt.arrives_decodeRow columns fields values
  exact ⟨harrives, Post.isHydrated harrives, User.isHydrated harrives⟩

/-- The node of a post whose identifier has more than 53 bits. -/
def largePost : SentNode :=
  ⟨9007199254740993, ["Post", "Note"], [("title", .text "Hi")]⟩

/-- The nodes of users, one of whom has nothing but an identifier. -/
def likingUsers : List SentNode :=
  [⟨7, ["User"], [("name", .text "Ann"), ("likes", .list [.int 1])]⟩, ⟨-3, [], []⟩]

/-- A server that has one post and the users who like it, whatever it is asked. -/
def postServer : Server Unit where
  answer _ _ := (.rows ["n", "liked_by_collection"]
    [[largePost.value, .list (likingUsers.map SentNode.value)]] false, ())

theorem arrives_fetched_largePost :
    let s : Statement := ⟨"MATCH (n:Post) RETURN n, liked_by_collection", .empty⟩
    knownColumns s.text = .ok ["n", "liked_by_collection"] ∧
    ∃ row post, (client postServer).fetch s () = (.ok [.ok row], ()) ∧
      Post.converter.fromRow row "n" = .ok post ∧
      post.metadata.id = some "9007199254740993" ∧
      post.likedBy.map (·.metadata.id) = [some "7", some "-3"] := by
  intro s
  have haccepted : knownColumns s.text = .ok ["n", "liked_by_collection"] := by decide +kernel
  have hreply : postServer.answer (.ofStatement s) () = (.rows ["n", "liked_by_collection"]
      [[largePost.value, .list (likingUsers.map SentNode.value)]] false, ()) := rfl
  obtain ⟨rows, hfetch, -, hrows⟩ := arrives_fetched haccepted hreply
  obtain ⟨row, _, ⟨-, hpost, -⟩, hnone, rfl⟩ := List.forall₂_cons_left_iff.1 hrows
  obtain rfl := List.forall₂_nil_left_iff.1 hnone
  have hsent {column : String} (v : Bolt.Value)
      (h : lastValue? column [("n", largePost.value),
        ("liked_by_collection", .list (likingUsers.map SentNode.value))] = some v) :
      sent? ["n", "liked_by_collection"]
        [largePost.value, .list (likingUsers.map SentNode.value)] column = some v :=
    (Bag.get?_ofList _ _).trans h
  obtain ⟨post, hread, hid, hliked, -⟩ := hpost "n" (by simp) largePost
    (hsent _ (by simp [lastValue?]))
  refine ⟨haccepted, row, post, hfetch, hread, hid, ?_⟩
  have husers := hliked (by simp) likingUsers (hsent _ (by simp [lastValue?]))
  obtain ⟨ann, _, hann, hrest, hall⟩ := List.forall₂_cons_left_iff.1 husers
  obtain ⟨other, _, hother, hnone, rfl⟩ := List.forall₂_cons_left_iff.1 hrest
  obtain rfl := List.forall₂_nil_left_iff.1 hnone
  rw [hall, List.map_cons, List.map_cons, List.map_nil, hann.id, hother.id]
  decide

end EntityGraph.Social
