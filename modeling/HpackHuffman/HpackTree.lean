import HpackHuffman.Table
import HpackHuffman.Util.CodeTree

/-! # The code tree of the HPACK table

`hpackTree` is a certificate: checking it once against the table gives
prefix-freeness of the 257 codes and, below each internal node, every lookup the
decoder can make. An internal node is labelled with the automaton's id for it
and with the id the replaced nghttp2 automaton uses.
-/

namespace HpackHuffman

open Bits

def hpackTree : CodeTree (Nat × Nat) Sym :=
  .node (0, 0) (.node (29, 1) (.node (25, 2) (.node (17, 3) (.node (1, 4) (.leaf 48) (.leaf 49))
  (.node (2, 5) (.leaf 50) (.leaf 97))) (.node (18, 6) (.node (3, 7) (.leaf 99) (.leaf 101))
  (.node (4, 8) (.leaf 105) (.leaf 111)))) (.node (26, 9) (.node (19, 10) (.node (5, 11) (.leaf
  115) (.leaf 116)) (.node (6, 12) (.node (55, 13) (.leaf 32) (.leaf 37)) (.node (56, 14) (.leaf
  45) (.leaf 46)))) (.node (20, 15) (.node (7, 16) (.node (57, 17) (.leaf 47) (.leaf 51)) (.node
  (58, 18) (.leaf 52) (.leaf 53))) (.node (8, 19) (.node (59, 20) (.leaf 54) (.leaf 55)) (.node
  (60, 21) (.leaf 56) (.leaf 57)))))) (.node (30, 22) (.node (27, 23) (.node (21, 24) (.node (9,
  25) (.node (61, 26) (.leaf 61) (.leaf 65)) (.node (62, 27) (.leaf 95) (.leaf 98))) (.node (10,
  28) (.node (63, 29) (.leaf 100) (.leaf 102)) (.node (64, 30) (.leaf 103) (.leaf 104)))) (.node
  (22, 31) (.node (11, 32) (.node (65, 33) (.leaf 108) (.leaf 109)) (.node (66, 34) (.leaf 110)
  (.leaf 112))) (.node (12, 35) (.node (67, 36) (.leaf 114) (.leaf 117)) (.node (68, 37) (.node
  (37, 38) (.leaf 58) (.leaf 66)) (.node (38, 39) (.leaf 67) (.leaf 68)))))) (.node (28, 40)
  (.node (23, 41) (.node (13, 42) (.node (69, 43) (.node (39, 44) (.leaf 69) (.leaf 70)) (.node
  (40, 45) (.leaf 71) (.leaf 72))) (.node (70, 46) (.node (41, 47) (.leaf 73) (.leaf 74)) (.node
  (42, 48) (.leaf 75) (.leaf 76)))) (.node (14, 49) (.node (71, 50) (.node (43, 51) (.leaf 77)
  (.leaf 78)) (.node (44, 52) (.leaf 79) (.leaf 80))) (.node (72, 53) (.node (45, 54) (.leaf 81)
  (.leaf 82)) (.node (46, 55) (.leaf 83) (.leaf 84))))) (.node (24, 56) (.node (15, 57) (.node
  (73, 58) (.node (47, 59) (.leaf 85) (.leaf 86)) (.node (48, 60) (.leaf 87) (.leaf 89))) (.node
  (74, 61) (.node (49, 62) (.leaf 106) (.leaf 107)) (.node (50, 63) (.leaf 113) (.leaf 118))))
  (.node (16, 64) (.node (75, 65) (.node (51, 66) (.leaf 119) (.leaf 120)) (.node (52, 67) (.leaf
  121) (.leaf 122))) (.node (76, 68) (.node (53, 69) (.node (33, 70) (.leaf 38) (.leaf 42)) (.node
  (34, 71) (.leaf 44) (.leaf 59))) (.node (54, 72) (.node (35, 73) (.leaf 88) (.leaf 90)) (.node
  (36, 74) (.node (31, 75) (.node (87, 76) (.leaf 33) (.leaf 34)) (.node (88, 77) (.leaf 40)
  (.leaf 41))) (.node (32, 78) (.node (89, 79) (.leaf 63) (.node (84, 80) (.leaf 39) (.leaf 43)))
  (.node (90, 81) (.node (85, 82) (.leaf 124) (.node (81, 83) (.leaf 35) (.leaf 62))) (.node (86,
  84) (.node (82, 85) (.node (77, 86) (.leaf 0) (.leaf 36)) (.node (78, 87) (.leaf 64) (.leaf
  91))) (.node (83, 88) (.node (79, 89) (.leaf 93) (.leaf 126)) (.node (80, 90) (.node (96, 91)
  (.leaf 94) (.leaf 125)) (.node (97, 92) (.node (94, 93) (.leaf 60) (.leaf 96)) (.node (95, 94)
  (.leaf 123) (.node (93, 95) (.node (91, 96) (.node (137, 97) (.node (129, 98) (.leaf 92) (.leaf
  195)) (.node (130, 99) (.leaf 208) (.node (116, 100) (.leaf 128) (.leaf 130)))) (.node (138,
  101) (.node (131, 102) (.node (117, 103) (.leaf 131) (.leaf 162)) (.node (118, 104) (.leaf 184)
  (.leaf 194))) (.node (132, 105) (.node (119, 106) (.leaf 224) (.leaf 226)) (.node (120, 107)
  (.node (98, 108) (.leaf 153) (.leaf 161)) (.node (99, 109) (.leaf 167) (.leaf 172)))))) (.node
  (92, 110) (.node (139, 111) (.node (133, 112) (.node (121, 113) (.node (100, 114) (.leaf 176)
  (.leaf 177)) (.node (101, 115) (.leaf 179) (.leaf 209))) (.node (122, 116) (.node (102, 117)
  (.leaf 216) (.leaf 217)) (.node (103, 118) (.leaf 227) (.leaf 229)))) (.node (134, 119) (.node
  (123, 120) (.node (104, 121) (.leaf 230) (.node (182, 122) (.leaf 129) (.leaf 132))) (.node
  (105, 123) (.node (183, 124) (.leaf 133) (.leaf 134)) (.node (184, 125) (.leaf 136) (.leaf
  146)))) (.node (124, 126) (.node (106, 127) (.node (185, 128) (.leaf 154) (.leaf 156)) (.node
  (186, 129) (.leaf 160) (.leaf 163))) (.node (107, 130) (.node (187, 131) (.leaf 164) (.leaf
  169)) (.node (188, 132) (.leaf 170) (.leaf 173)))))) (.node (140, 133) (.node (135, 134) (.node
  (125, 135) (.node (108, 136) (.node (189, 137) (.leaf 178) (.leaf 181)) (.node (190, 138) (.leaf
  185) (.leaf 186))) (.node (109, 139) (.node (191, 140) (.leaf 187) (.leaf 189)) (.node (192,
  141) (.leaf 190) (.leaf 196)))) (.node (126, 142) (.node (110, 143) (.node (193, 144) (.leaf
  198) (.leaf 228)) (.node (194, 145) (.leaf 232) (.leaf 233))) (.node (111, 146) (.node (195,
  147) (.node (162, 148) (.leaf 1) (.leaf 135)) (.node (163, 149) (.leaf 137) (.leaf 138))) (.node
  (196, 150) (.node (164, 151) (.leaf 139) (.leaf 140)) (.node (165, 152) (.leaf 141) (.leaf
  143)))))) (.node (136, 153) (.node (127, 154) (.node (112, 155) (.node (197, 156) (.node (166,
  157) (.leaf 147) (.leaf 149)) (.node (167, 158) (.leaf 150) (.leaf 151))) (.node (198, 159)
  (.node (168, 160) (.leaf 152) (.leaf 155)) (.node (169, 161) (.leaf 157) (.leaf 158)))) (.node
  (113, 162) (.node (199, 163) (.node (170, 164) (.leaf 165) (.leaf 166)) (.node (171, 165) (.leaf
  168) (.leaf 174))) (.node (200, 166) (.node (172, 167) (.leaf 175) (.leaf 180)) (.node (173,
  168) (.leaf 182) (.leaf 183))))) (.node (128, 169) (.node (114, 170) (.node (201, 171) (.node
  (174, 172) (.leaf 188) (.leaf 191)) (.node (175, 173) (.leaf 197) (.leaf 231))) (.node (202,
  174) (.node (176, 175) (.leaf 239) (.node (151, 176) (.leaf 9) (.leaf 142))) (.node (177, 177)
  (.node (152, 178) (.leaf 144) (.leaf 145)) (.node (153, 179) (.leaf 148) (.leaf 159))))) (.node
  (115, 180) (.node (203, 181) (.node (178, 182) (.node (154, 183) (.leaf 171) (.leaf 206)) (.node
  (155, 184) (.leaf 215) (.leaf 225))) (.node (179, 185) (.node (156, 186) (.leaf 236) (.leaf
  237)) (.node (157, 187) (.node (141, 188) (.leaf 199) (.leaf 207)) (.node (142, 189) (.leaf 234)
  (.leaf 235))))) (.node (204, 190) (.node (180, 191) (.node (158, 192) (.node (143, 193) (.node
  (238, 194) (.leaf 192) (.leaf 193)) (.node (239, 195) (.leaf 200) (.leaf 201))) (.node (144,
  196) (.node (240, 197) (.leaf 202) (.leaf 205)) (.node (241, 198) (.leaf 210) (.leaf 213))))
  (.node (159, 199) (.node (145, 200) (.node (242, 201) (.leaf 218) (.leaf 219)) (.node (243, 202)
  (.leaf 238) (.leaf 240))) (.node (146, 203) (.node (244, 204) (.leaf 242) (.leaf 243)) (.node
  (245, 205) (.leaf 255) (.node (221, 206) (.leaf 203) (.leaf 204)))))) (.node (181, 207) (.node
  (160, 208) (.node (147, 209) (.node (246, 210) (.node (222, 211) (.leaf 211) (.leaf 212)) (.node
  (223, 212) (.leaf 214) (.leaf 221))) (.node (247, 213) (.node (224, 214) (.leaf 222) (.leaf
  223)) (.node (225, 215) (.leaf 241) (.leaf 244)))) (.node (148, 216) (.node (248, 217) (.node
  (226, 218) (.leaf 245) (.leaf 246)) (.node (227, 219) (.leaf 247) (.leaf 248))) (.node (249,
  220) (.node (228, 221) (.leaf 250) (.leaf 251)) (.node (229, 222) (.leaf 252) (.leaf 253)))))
  (.node (161, 223) (.node (149, 224) (.node (250, 225) (.node (230, 226) (.leaf 254) (.node (206,
  227) (.leaf 2) (.leaf 3))) (.node (231, 228) (.node (207, 229) (.leaf 4) (.leaf 5)) (.node (208,
  230) (.leaf 6) (.leaf 7)))) (.node (251, 231) (.node (232, 232) (.node (209, 233) (.leaf 8)
  (.leaf 11)) (.node (210, 234) (.leaf 12) (.leaf 14))) (.node (233, 235) (.node (211, 236) (.leaf
  15) (.leaf 16)) (.node (212, 237) (.leaf 17) (.leaf 18))))) (.node (150, 238) (.node (252, 239)
  (.node (234, 240) (.node (213, 241) (.leaf 19) (.leaf 20)) (.node (214, 242) (.leaf 21) (.leaf
  23))) (.node (235, 243) (.node (215, 244) (.leaf 24) (.leaf 25)) (.node (216, 245) (.leaf 26)
  (.leaf 27)))) (.node (253, 246) (.node (236, 247) (.node (217, 248) (.leaf 28) (.leaf 29))
  (.node (218, 249) (.leaf 30) (.leaf 31))) (.node (237, 250) (.node (219, 251) (.leaf 127) (.leaf
  220)) (.node (220, 252) (.leaf 249) (.node (205, 253) (.node (254, 254) (.leaf 10) (.leaf 13))
  (.node (255, 255) (.leaf 22) (.leaf 256))))))))))))))))))))))))))))))

/-- A check of the whole tree holds below every path, at the path's value and length. -/
theorem checkAlong_at {t below : CodeTree (Nat × Nat) Sym} {path : List Bool}
    {ok : Nat × Nat → CodeTree (Nat × Nat) Sym → Bool}
    (checked : t.checkAlong accumulate ok (0, 0) = true) (at_ : t.walk path = some below) :
    ok (valueOf path, path.length) below = true := by
  have here := CodeTree.checkAlong_sound checked at_
  have fold := foldl_accumulate [] path
  simp only [valueOf, List.length_nil, List.nil_append] at fold
  rwa [fold] at here

/-- A leaf stands where its symbol's code says. -/
def leafOk (p : Nat × Nat) : CodeTree (Nat × Nat) Sym → Bool
  | .leaf s => decide (entryAt hpack s = ⟨p.1, p.2⟩)
  | .node _ _ _ => true

theorem leaves_ok : hpackTree.checkAlong accumulate leafOk (0, 0) = true := by decide +kernel

def isLeaf (s : Sym) : Option (CodeTree (Nat × Nat) Sym) → Bool
  | some (.leaf s') => decide (s' = s)
  | _ => false

theorem words_ok :
    (List.finRange 257).all (fun s => isLeaf s (hpackTree.walk (codeBitsOf hpack s))) = true := by
  decide +kernel

theorem hpackTree_spells : hpackTree.Spells (codeBitsOf hpack) := by
  intro path s
  constructor
  · intro at_
    have entry : entryAt hpack s = ⟨valueOf path, path.length⟩ :=
      of_decide_eq_true (checkAlong_at leaves_ok at_)
    simp only [codeBitsOf, codeOf, lenOf, entry, codeToBits_valueOf]
  · rintro rfl
    have ok := List.all_eq_true.mp words_ok s (List.mem_finRange s)
    simp only [isLeaf] at ok
    split at ok
    case h_1 s' found =>
      rw [found, of_decide_eq_true ok]
    case h_2 => simp at ok

theorem hpack_valid : hpack.Valid :=
  Table.valid_of_words (by decide +kernel) (by decide +kernel) fun _ _ start =>
    hpackTree_spells.eq_of_prefix start

theorem rfcCode_hpack : RfcCode hpack where
  lengths := hpack_lengths_in_range
  fits := hpack_valid.code_lt
  words _ _ := hpack_valid.eq_of_prefix
  eos := eos_ones

end HpackHuffman
