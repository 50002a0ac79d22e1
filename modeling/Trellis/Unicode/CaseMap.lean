import Trellis.Unicode.Ranges
/-!
Full case maps of single characters. Most characters map to one at a fixed distance over a run of
code points, above or below; a few uppercase forms are several characters long. The maps are those of
edition 17 of the standard.
-/

namespace Trellis.Unicode.CaseMap

/-- Runs whose lowercase form lies above. -/
def lowerUp : Array Shift := Shift.readAll
  ["41-5a+20 c0-d6+20 d8-de+20 100-12e/2+1 132-136/2+1 139-147/2+1 14a-176/2+1 179-17d/2+1",
   "181+d2 182-184/2+1 186+ce 187+1 189-18a+cd 18b+1 18e+4f 18f+ca 190+cb 191+1 193+cd 194+cf",
   "196+d3 197+d1 198+1 19c+d3 19d+d5 19f+d6 1a0-1a4/2+1 1a6+da 1a7+1 1a9+da 1ac+1 1ae+da",
   "1af+1 1b1-1b2+d9 1b3-1b5/2+1 1b7+db 1b8+1 1bc+1 1c4+2 1c5+1 1c7+2 1c8+1 1ca+2 1cb-1db/2+1",
   "1de-1ee/2+1 1f1+2 1f2-1f4/2+1 1f8-21e/2+1 222-232/2+1 23a+2a2b 23b+1 23e+2a28 241+1 244+45",
   "245+47 246-24e/2+1 370-372/2+1 376+1 37f+74 386+26 388-38a+25 38c+40 38e-38f+3f 391-3a1+20",
   "3a3-3ab+20 3cf+8 3d8-3ee/2+1 3f7+1 3fa+1 400-40f+50 410-42f+20 460-480/2+1 48a-4be/2+1",
   "4c0+f 4c1-4cd/2+1 4d0-52e/2+1 531-556+30 10a0-10c5+1c60 10c7+1c60 10cd+1c60 13a0-13ef+97d0",
   "13f0-13f5+8 1c89+1 1e00-1e94/2+1 1ea0-1efe/2+1 2132+1c 2160-216f+10 2183+1 24b6-24cf+1a",
   "2c00-2c2f+30 2c60+1 2c67-2c6b/2+1 2c72+1 2c75+1 2c80-2ce2/2+1 2ceb-2ced/2+1 2cf2+1",
   "a640-a66c/2+1 a680-a69a/2+1 a722-a72e/2+1 a732-a76e/2+1 a779-a77b/2+1 a77e-a786/2+1 a78b+1",
   "a790-a792/2+1 a796-a7a8/2+1 a7b3+3a0 a7b4-a7c2/2+1 a7c7-a7c9/2+1 a7cc-a7da/2+1",
   "a7f5+1 ff21-ff3a+20 10400-10427+28 104b0-104d3+28 10570-1057a+27",
   "1057c-1058a+27 1058c-10592+27 10594-10595+27 10c80-10cb2+40 10d50-10d65+20 118a0-118bf+20",
   "16e40-16e5f+20 16ea0-16eb8+1b 1e900-1e921+22"]

/-- Runs whose lowercase form lies below. -/
def lowerDown : Array Shift := Shift.readAll
  ["178+79 1f6+61 1f7+38 220+82 23d+a3 243+c3 3f4+3c 3f9+7 3fd-3ff+82 1c90-1cba+bc0",
   "1cbd-1cbf+bc0 1e9e+1dbf 1f08-1f0f+8 1f18-1f1d+8 1f28-1f2f+8 1f38-1f3f+8 1f48-1f4d+8",
   "1f59-1f5f/2+8 1f68-1f6f+8 1f88-1f8f+8 1f98-1f9f+8 1fa8-1faf+8 1fb8-1fb9+8 1fba-1fbb+4a",
   "1fbc+9 1fc8-1fcb+56 1fcc+9 1fd8-1fd9+8 1fda-1fdb+64 1fe8-1fe9+8 1fea-1feb+70 1fec+7",
   "1ff8-1ff9+80 1ffa-1ffb+7e 1ffc+9 2126+1d5d 212a+20bf 212b+2046 2c62+29f7 2c63+ee6",
   "2c64+29e7 2c6d+2a1c 2c6e+29fd 2c6f+2a1f 2c70+2a1e 2c7e-2c7f+2a3f a77d+8a04 a78d+a528",
   "a7aa+a544 a7ab+a54f a7ac+a54b a7ad+a541 a7ae+a544 a7b0+a512 a7b1+a52a a7b2+a515 a7c4+30",
   "a7c5+a543 a7c6+8a38 a7cb+a567 a7dc+a641"]

/-- Runs whose uppercase form lies above. -/
def upperUp : Array Shift := Shift.readAll
  ["b5+2e7 ff+79 180+c3 195+61 19a+a3 19b+a641 19e+82 1bf+38 23f-240+2a3f 250+2a1f 251+2a1c",
   "252+2a1e 25c+a54f 261+a54b 264+a567 265+a528 266+a544 26a+a544 26b+29f7 26c+a541 271+29fd",
   "27d+29e7 282+a543 287+a52a 29d+a515 29e+a512 345+54 37b-37d+82 3f2+7 10d0-10fa+bc0",
   "10fd-10ff+bc0 1c88+89c2 1d79+8a04 1d7d+ee6 1d8e+8a38 1f00-1f07+8 1f10-1f15+8 1f20-1f27+8",
   "1f30-1f37+8 1f40-1f45+8 1f51-1f57/2+8 1f60-1f67+8 1f70-1f71+4a 1f72-1f75+56 1f76-1f77+64",
   "1f78-1f79+80 1f7a-1f7b+70 1f7c-1f7d+7e 1fb0-1fb1+8 1fd0-1fd1+8 1fe0-1fe1+8 1fe5+7 a794+30"]

/-- Runs whose uppercase form lies below. -/
def upperDown : Array Shift := Shift.readAll
  ["61-7a+20 e0-f6+20 f8-fe+20 101-12f/2+1 131+e8 133-137/2+1 13a-148/2+1 14b-177/2+1",
   "17a-17e/2+1 17f+12c 183-185/2+1 188+1 18c+1 192+1 199+1 1a1-1a5/2+1 1a8+1 1ad+1 1b0+1",
   "1b4-1b6/2+1 1b9+1 1bd+1 1c5+1 1c6+2 1c8+1 1c9+2 1cb+1 1cc+2 1ce-1dc/2+1 1dd+4f 1df-1ef/2+1",
   "1f2+1 1f3+2 1f5+1 1f9-21f/2+1 223-233/2+1 23c+1 242+1 247-24f/2+1 253+d2 254+ce 256-257+cd",
   "259+ca 25b+cb 260+cd 263+cf 268+d1 269+d3 26f+d3 272+d5 275+d6 280+da 283+da 288+da 289+45",
   "28a-28b+d9 28c+47 292+db 371-373/2+1 377+1 3ac+26 3ad-3af+25 3b1-3c1+20 3c2+1f 3c3-3cb+20",
   "3cc+40 3cd-3ce+3f 3d0+3e 3d1+39 3d5+2f 3d6+36 3d7+8 3d9-3ef/2+1 3f0+56 3f1+50 3f3+74",
   "3f5+60 3f8+1 3fb+1 430-44f+20 450-45f+50 461-481/2+1 48b-4bf/2+1 4c2-4ce/2+1 4cf+f",
   "4d1-52f/2+1 561-586+30 13f8-13fd+8 1c80+186e 1c81+186d 1c82+1864 1c83-1c84+1862 1c85+1863",
   "1c86+185c 1c87+1825 1c8a+1 1e01-1e95/2+1 1e9b+3b 1ea1-1eff/2+1 1fbe+1c25 214e+1c",
   "2170-217f+10 2184+1 24d0-24e9+1a 2c30-2c5f+30 2c61+1 2c65+2a2b 2c66+2a28 2c68-2c6c/2+1",
   "2c73+1 2c76+1 2c81-2ce3/2+1 2cec-2cee/2+1 2cf3+1 2d00-2d25+1c60 2d27+1c60 2d2d+1c60",
   "a641-a66d/2+1 a681-a69b/2+1 a723-a72f/2+1 a733-a76f/2+1 a77a-a77c/2+1 a77f-a787/2+1 a78c+1",
   "a791-a793/2+1 a797-a7a9/2+1 a7b5-a7c3/2+1 a7c8-a7ca/2+1 a7cd-a7db/2+1 a7f6+1",
   "ab53+3a0 ab70-abbf+97d0 ff41-ff5a+20 10428-1044f+28 104d8-104fb+28 10597-105a1+27",
   "105a3-105b1+27 105b3-105b9+27 105bb-105bc+27 10cc0-10cf2+40 10d70-10d85+20 118c0-118df+20",
   "16e60-16e7f+20 16ebb-16ed3+1b 1e922-1e943+22"]

/-- Uppercase forms of several characters: the character, `=`, and its form. -/
def upperLong : List (Nat × List Nat) := readForms
  ["df=53.53 149=2bc.4e 1f0=4a.30c 390=399.308.301 3b0=3a5.308.301 587=535.552 1e96=48.331",
   "1e97=54.308 1e98=57.30a 1e99=59.30a 1e9a=41.2be 1f50=3a5.313 1f52=3a5.313.300",
   "1f54=3a5.313.301 1f56=3a5.313.342 1f80=1f08.399 1f81=1f09.399 1f82=1f0a.399 1f83=1f0b.399",
   "1f84=1f0c.399 1f85=1f0d.399 1f86=1f0e.399 1f87=1f0f.399 1f88=1f08.399 1f89=1f09.399",
   "1f8a=1f0a.399 1f8b=1f0b.399 1f8c=1f0c.399 1f8d=1f0d.399 1f8e=1f0e.399 1f8f=1f0f.399",
   "1f90=1f28.399 1f91=1f29.399 1f92=1f2a.399 1f93=1f2b.399 1f94=1f2c.399 1f95=1f2d.399",
   "1f96=1f2e.399 1f97=1f2f.399 1f98=1f28.399 1f99=1f29.399 1f9a=1f2a.399 1f9b=1f2b.399",
   "1f9c=1f2c.399 1f9d=1f2d.399 1f9e=1f2e.399 1f9f=1f2f.399 1fa0=1f68.399 1fa1=1f69.399",
   "1fa2=1f6a.399 1fa3=1f6b.399 1fa4=1f6c.399 1fa5=1f6d.399 1fa6=1f6e.399 1fa7=1f6f.399",
   "1fa8=1f68.399 1fa9=1f69.399 1faa=1f6a.399 1fab=1f6b.399 1fac=1f6c.399 1fad=1f6d.399",
   "1fae=1f6e.399 1faf=1f6f.399 1fb2=1fba.399 1fb3=391.399 1fb4=386.399 1fb6=391.342",
   "1fb7=391.342.399 1fbc=391.399 1fc2=1fca.399 1fc3=397.399 1fc4=389.399 1fc6=397.342",
   "1fc7=397.342.399 1fcc=397.399 1fd2=399.308.300 1fd3=399.308.301 1fd6=399.342",
   "1fd7=399.308.342 1fe2=3a5.308.300 1fe3=3a5.308.301 1fe4=3a1.313 1fe6=3a5.342",
   "1fe7=3a5.308.342 1ff2=1ffa.399 1ff3=3a9.399 1ff4=38f.399 1ff6=3a9.342 1ff7=3a9.342.399",
   "1ffc=3a9.399 fb00=46.46 fb01=46.49 fb02=46.4c fb03=46.46.49 fb04=46.46.4c fb05=53.54",
   "fb06=53.54 fb13=544.546 fb14=544.535 fb15=544.53b fb16=54e.546 fb17=544.53d"]

end Trellis.Unicode.CaseMap
