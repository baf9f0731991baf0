import TidyRows.Text.Words
import TidyRows.Unicode.Coded
namespace TidyRows.Unicode

def scriptTable : List String := [
  "Zyyy65Latn26Zyyy6Latn26Zyyy47Latn1Zyyy15Latn1Zyyy5Latn23Zyyy1Latn31Zyyy1Latn449Zyyy39Latn5",
  "Zyyy5Bopo2Zyyy20Zinh112Grek4Zyyy1Grek3Zzzz2Grek4Zyyy1Grek1Zzzz4Grek1Zyyy1Grek1Zyyy1Grek3Zzzz1",
  "Grek1Zzzz1Grek20Zzzz1Grek63Copt14Grek16Cyrl133Zinh2Cyrl169Zzzz1Armn38Zzzz2Armn50Zzzz2Armn3",
  "Zzzz1Hebr55Zzzz8Hebr27Zzzz4Hebr6Zzzz11Arab5Zyyy1Arab6Zyyy1Arab14Zyyy1Arab3Zyyy1Arab32Zyyy1",
  "Arab10Zinh11Arab26Zinh1Arab108Zyyy1Arab34Syrc14Zzzz1Syrc60Zzzz2Syrc3Arab48Thaa50Zzzz14Nkoo59",
  "Zzzz2Nkoo3Samr46Zzzz2Samr15Zzzz1Mand28Zzzz2Mand1Zzzz1Syrc11Zzzz5Arab34Zzzz5Arab75Zyyy1Arab29",
  "Deva81Zinh4Deva15Zyyy2Deva26Beng4Zzzz1Beng8Zzzz2Beng2Zzzz2Beng22Zzzz1Beng7Zzzz1Beng1Zzzz3Beng4",
  "Zzzz2Beng9Zzzz2Beng2Zzzz2Beng4Zzzz8Beng1Zzzz4Beng2Zzzz1Beng5Zzzz2Beng25Zzzz2Guru3Zzzz1Guru6",
  "Zzzz4Guru2Zzzz2Guru22Zzzz1Guru7Zzzz1Guru2Zzzz1Guru2Zzzz1Guru2Zzzz2Guru1Zzzz1Guru5Zzzz4Guru2",
  "Zzzz2Guru3Zzzz3Guru1Zzzz7Guru4Zzzz1Guru1Zzzz7Guru17Zzzz10Gujr3Zzzz1Gujr9Zzzz1Gujr3Zzzz1Gujr22",
  "Zzzz1Gujr7Zzzz1Gujr2Zzzz1Gujr5Zzzz2Gujr10Zzzz1Gujr3Zzzz1Gujr3Zzzz2Gujr1Zzzz15Gujr4Zzzz2Gujr12",
  "Zzzz7Gujr7Zzzz1Orya3Zzzz1Orya8Zzzz2Orya2Zzzz2Orya22Zzzz1Orya7Zzzz1Orya2Zzzz1Orya5Zzzz2Orya9",
  "Zzzz2Orya2Zzzz2Orya3Zzzz7Orya3Zzzz4Orya2Zzzz1Orya5Zzzz2Orya18Zzzz10Taml2Zzzz1Taml6Zzzz3Taml3",
  "Zzzz1Taml4Zzzz3Taml2Zzzz1Taml1Zzzz1Taml2Zzzz3Taml2Zzzz3Taml3Zzzz3Taml12Zzzz4Taml5Zzzz3Taml3",
  "Zzzz1Taml4Zzzz2Taml1Zzzz6Taml1Zzzz14Taml21Zzzz5Telu13Zzzz1Telu3Zzzz1Telu23Zzzz1Telu16Zzzz2",
  "Telu9Zzzz1Telu3Zzzz1Telu4Zzzz7Telu2Zzzz1Telu3Zzzz1Telu2Zzzz2Telu4Zzzz2Telu10Zzzz7Telu9Knda13",
  "Zzzz1Knda3Zzzz1Knda23Zzzz1Knda10Zzzz1Knda5Zzzz2Knda9Zzzz1Knda3Zzzz1Knda4Zzzz7Knda2Zzzz5Knda3",
  "Zzzz1Knda4Zzzz2Knda10Zzzz1Knda3Zzzz12Mlym13Zzzz1Mlym3Zzzz1Mlym51Zzzz1Mlym3Zzzz1Mlym6Zzzz4",
  "Mlym16Zzzz2Mlym26Zzzz1Sinh3Zzzz1Sinh18Zzzz3Sinh24Zzzz1Sinh9Zzzz1Sinh1Zzzz2Sinh7Zzzz3Sinh1Zzzz4",
  "Sinh6Zzzz1Sinh1Zzzz1Sinh8Zzzz6Sinh10Zzzz2Sinh3Zzzz12Thai58Zzzz4Zyyy1Thai28Zzzz37Laoo2Zzzz1",
  "Laoo1Zzzz1Laoo5Zzzz1Laoo24Zzzz1Laoo1Zzzz1Laoo23Zzzz2Laoo5Zzzz1Laoo1Zzzz1Laoo7Zzzz1Laoo10Zzzz2",
  "Laoo4Zzzz32Tibt72Zzzz1Tibt36Zzzz4Tibt39Zzzz1Tibt36Zzzz1Tibt15Zzzz1Tibt7Zyyy4Tibt2Zzzz37Mymr160",
  "Geor38Zzzz1Geor1Zzzz5Geor1Zzzz2Geor43Zyyy1Geor4Hang256Ethi73Zzzz1Ethi4Zzzz2Ethi7Zzzz1Ethi1",
  "Zzzz1Ethi4Zzzz2Ethi41Zzzz1Ethi4Zzzz2Ethi33Zzzz1Ethi4Zzzz2Ethi7Zzzz1Ethi1Zzzz1Ethi4Zzzz2Ethi15",
  "Zzzz1Ethi57Zzzz1Ethi4Zzzz2Ethi67Zzzz2Ethi32Zzzz3Ethi26Zzzz6Cher86Zzzz2Cher6Zzzz2Cans640Ogam29",
  "Zzzz3Runr75Zyyy3Runr11Zzzz7Tglg22Zzzz9Tglg1Hano21Zyyy2Zzzz9Buhd20Zzzz12Tagb13Zzzz1Tagb3Zzzz1",
  "Tagb2Zzzz12Khmr94Zzzz2Khmr10Zzzz6Khmr10Zzzz6Mong2Zyyy2Mong1Zyyy1Mong20Zzzz6Mong89Zzzz7Mong43",
  "Zzzz5Cans70Zzzz10Limb31Zzzz1Limb12Zzzz4Limb12Zzzz4Limb1Zzzz3Limb12Tale30Zzzz2Tale5Zzzz11Talu44",
  "Zzzz4Talu26Zzzz6Talu11Zzzz3Talu2Khmr32Bugi28Zzzz2Bugi2Lana63Zzzz1Lana29Zzzz2Lana11Zzzz6Lana10",
  "Zzzz6Lana14Zzzz2Zinh46Zzzz2Zinh12Zzzz20Bali77Zzzz1Bali50Sund64Batk52Zzzz8Batk4Lepc56Zzzz3",
  "Lepc15Zzzz3Lepc3Olck48Cyrl11Zzzz5Geor43Zzzz2Geor3Sund8Zzzz8Zinh3Zyyy1Zinh13Zyyy1Zinh7Zyyy4",
  "Zinh1Zyyy6Zinh1Zyyy3Zinh2Zyyy1Zzzz5Latn38Grek5Cyrl1Latn49Grek5Latn4Grek5Latn13Cyrl1Latn70Grek1",
  "Zinh64Latn256Grek22Zzzz2Grek6Zzzz2Grek38Zzzz2Grek6Zzzz2Grek8Zzzz1Grek1Zzzz1Grek1Zzzz1Grek1",
  "Zzzz1Grek31Zzzz2Grek53Zzzz1Grek15Zzzz1Grek14Zzzz2Grek6Zzzz1Grek19Zzzz2Grek3Zzzz1Grek9Zzzz1",
  "Zyyy12Zinh2Zyyy87Zzzz1Zyyy11Latn1Zzzz2Zyyy11Latn1Zyyy15Zzzz1Latn13Zzzz3Zyyy34Zzzz14Zinh33",
  "Zzzz15Zyyy38Grek1Zyyy3Latn2Zyyy6Latn1Zyyy27Latn1Zyyy17Latn41Zyyy3Zzzz4Zyyy666Zzzz22Zyyy11",
  "Zzzz21Zyyy928Brai256Zyyy628Zzzz2Zyyy138Glag96Latn32Copt116Zzzz5Copt7Geor38Zzzz1Geor1Zzzz5Geor1",
  "Zzzz2Tfng56Zzzz7Tfng2Zzzz14Tfng1Ethi23Zzzz9Ethi7Zzzz1Ethi7Zzzz1Ethi7Zzzz1Ethi7Zzzz1Ethi7Zzzz1",
  "Ethi7Zzzz1Ethi7Zzzz1Ethi7Zzzz1Cyrl32Zyyy94Zzzz34Hani26Zzzz1Hani89Zzzz12Hani214Zzzz26Zyyy21",
  "Hani1Zyyy1Hani1Zyyy25Hani9Zinh4Hang2Zyyy8Hani4Zyyy4Zzzz1Hira86Zzzz2Zinh2Zyyy2Hira3Zyyy1Kana90",
  "Zyyy2Kana3Zzzz5Bopo43Zzzz1Hang94Zzzz1Zyyy16Bopo32Zyyy38Zzzz9Zyyy1Kana16Hang31Zzzz1Zyyy64Hang31",
  "Zyyy81Kana47Zyyy1Kana88Zyyy168Hani6592Zyyy64Hani20992Yiii1165Zzzz3Yiii55Zzzz9Lisu48Vaii300",
  "Zzzz20Cyrl96Bamu88Zzzz8Zyyy34Latn102Zyyy3Latn82Zzzz20Latn15Sylo45Zzzz3Zyyy10Zzzz6Phag56Zzzz8",
  "Saur70Zzzz8Saur12Zzzz6Deva32Kali46Zyyy1Kali1Rjng36Zzzz11Rjng1Hang29Zzzz3Java78Zzzz1Zyyy1Java10",
  "Zzzz4Java2Mymr31Zzzz1Cham55Zzzz9Cham14Zzzz2Cham10Zzzz2Cham4Mymr32Tavt67Zzzz24Tavt5Mtei23Zzzz10",
  "Ethi6Zzzz2Ethi6Zzzz2Ethi6Zzzz9Ethi7Zzzz1Ethi7Zzzz1Latn43Zyyy1Latn9Grek1Latn4Zyyy2Zzzz4Cher80",
  "Mtei46Zzzz2Mtei10Zzzz6Hang11172Zzzz12Hang23Zzzz4Hang49Zzzz8452Hani366Zzzz2Hani106Zzzz38Latn7",
  "Zzzz12Armn5Zzzz5Hebr26Zzzz1Hebr5Zzzz1Hebr1Zzzz1Hebr2Zzzz1Hebr2Zzzz1Hebr10Arab494Zyyy2Arab144",
  "Zzzz32Arab16Zinh16Zyyy10Zzzz6Zinh14Cyrl2Zyyy35Zzzz1Zyyy19Zzzz1Zyyy4Zzzz4Arab5Zzzz1Arab135Zzzz2",
  "Zyyy1Zzzz1Zyyy32Latn26Zyyy6Latn26Zyyy11Kana10Zyyy1Kana45Zyyy2Hang31Zzzz3Hang6Zzzz2Hang6Zzzz2",
  "Hang6Zzzz2Hang3Zzzz3Zyyy7Zzzz1Zyyy7Zzzz10Zyyy5Zzzz2Linb12Zzzz1Linb26Zzzz1Linb19Zzzz1Linb2Zzzz1",
  "Linb15Zzzz2Linb14Zzzz34Linb123Zzzz5Zyyy3Zzzz4Zyyy45Zzzz3Zyyy9Grek79Zzzz1Zyyy13Zzzz3Grek1Zzzz47",
  "Zyyy45Zinh1Zzzz130Lyci29Zzzz3Cari49Zzzz15Zinh1Zyyy27Zzzz4Ital36Zzzz9Ital3Goth27Zzzz5Perm43",
  "Zzzz5Ugar30Zzzz1Ugar1Xpeo36Zzzz4Xpeo14Zzzz42Dsrt80Shaw48Osma30Zzzz2Osma10Zzzz6Osge36Zzzz4",
  "Osge36Zzzz4Elba40Zzzz8Aghb52Zzzz11Aghb1Vith11Zzzz1Vith15Zzzz1Vith7Zzzz1Vith2Zzzz1Vith11Zzzz1",
  "Vith15Zzzz1Vith7Zzzz1Vith2Zzzz3Todr52Zzzz12Lina311Zzzz9Lina22Zzzz10Lina8Zzzz24Latn6Zzzz1Latn42",
  "Zzzz1Latn9Zzzz69Cprt6Zzzz2Cprt1Zzzz1Cprt44Zzzz1Cprt2Zzzz3Cprt1Zzzz2Cprt1Armi22Zzzz1Armi9Palm32",
  "Nbat31Zzzz8Nbat9Zzzz48Hatr19Zzzz1Hatr2Zzzz5Hatr5Phnx28Zzzz3Phnx1Lydi26Zzzz5Lydi1Sidt26Zzzz38",
  "Mero32Merc24Zzzz4Merc20Zzzz2Merc46Khar4Zzzz1Khar2Zzzz5Khar8Zzzz1Khar3Zzzz1Khar29Zzzz2Khar3",
  "Zzzz4Khar10Zzzz7Khar9Zzzz7Sarb32Narb32Zzzz32Mani39Zzzz4Mani12Zzzz9Avst54Zzzz3Avst7Prti22Zzzz2",
  "Prti8Phli19Zzzz5Phli8Phlp18Zzzz7Phlp4Zzzz12Phlp7Zzzz80Orkh73Zzzz55Hung51Zzzz13Hung51Zzzz7Hung6",
  "Rohg40Zzzz8Rohg10Zzzz6Gara38Zzzz3Gara29Zzzz8Gara2Zzzz208Arab31Zzzz1Yezi42Zzzz1Yezi3Zzzz2Yezi2",
  "Zzzz16Arab6Zzzz8Arab9Zzzz33Arab6Sogo40Zzzz8Sogd42Zzzz22Ougr26Zzzz38Chrs28Zzzz20Elym23Zzzz9",
  "Brah78Zzzz4Brah36Zzzz9Brah1Kthi67Zzzz10Kthi1Zzzz2Sora25Zzzz7Sora10Zzzz6Cakm53Zzzz1Cakm18Zzzz8",
  "Mahj39Zzzz9Shrd96Zzzz1Sinh20Zzzz11Khoj18Zzzz1Khoj47Zzzz62Mult7Zzzz1Mult1Zzzz1Mult4Zzzz1Mult15",
  "Zzzz1Mult11Zzzz6Sind59Zzzz5Sind10Zzzz6Gran4Zzzz1Gran8Zzzz2Gran2Zzzz2Gran22Zzzz1Gran7Zzzz1Gran2",
  "Zzzz1Gran5Zzzz1Zinh1Gran9Zzzz2Gran2Zzzz2Gran3Zzzz2Gran1Zzzz6Gran1Zzzz5Gran7Zzzz2Gran7Zzzz3",
  "Gran5Zzzz11Tutg10Zzzz1Tutg1Zzzz2Tutg1Zzzz1Tutg38Zzzz1Tutg10Zzzz1Tutg1Zzzz2Tutg1Zzzz1Tutg4Zzzz1",
  "Tutg10Zzzz1Tutg2Zzzz8Tutg2Zzzz29Newa92Zzzz1Newa5Zzzz30Tirh72Zzzz8Tirh10Zzzz166Sidd54Zzzz2",
  "Sidd38Zzzz34Modi69Zzzz11Modi10Zzzz6Mong13Zzzz19Takr58Zzzz6Takr10Zzzz6Mymr20Zzzz28Ahom27Zzzz2",
  "Ahom15Zzzz4Ahom23Zzzz185Dogr60Zzzz100Wara83Zzzz12Wara1Diak7Zzzz2Diak1Zzzz2Diak8Zzzz1Diak2Zzzz1",
  "Diak30Zzzz1Diak2Zzzz2Diak12Zzzz9Diak10Zzzz70Nand8Zzzz2Nand46Zzzz2Nand11Zzzz27Zanb72Zzzz8Soyo83",
  "Zzzz13Cans16Pauc57Zzzz7Deva10Zzzz86Shrd8Zzzz88Sunu34Zzzz14Sunu10Zzzz6Bhks9Zzzz1Bhks45Zzzz1",
  "Bhks14Zzzz10Bhks29Zzzz3Marc32Zzzz2Marc22Zzzz1Marc14Zzzz73Gonm7Zzzz1Gonm2Zzzz1Gonm44Zzzz3Gonm1",
  "Zzzz1Gonm2Zzzz1Gonm9Zzzz8Gonm10Zzzz6Gong6Zzzz1Gong2Zzzz1Gong37Zzzz1Gong2Zzzz1Gong6Zzzz7Gong10",
  "Zzzz6Tols44Zzzz4Tols10Zzzz246Maka25Zzzz7Kawi17Zzzz1Kawi41Zzzz3Kawi29Zzzz85Lisu1Zzzz15Taml50",
  "Zzzz13Taml1Xsux922Zzzz102Xsux111Zzzz1Xsux5Zzzz11Xsux196Zzzz2636Cpmn99Zzzz13Egyp1110Zzzz10",
  "Egyp3995Zzzz5Hluw583Zzzz6841Gukh58Zzzz1734Bamu569Zzzz7Mroo31Zzzz1Mroo10Zzzz4Mroo2Tnsa79Zzzz1",
  "Tnsa10Zzzz6Bass30Zzzz2Bass6Zzzz10Hmng70Zzzz10Hmng10Zzzz1Hmng7Zzzz1Hmng21Zzzz5Hmng19Zzzz432",
  "Krai58Zzzz198Medf91Zzzz5Berf25Zzzz2Berf25Zzzz44Plrd75Zzzz4Plrd57Zzzz7Plrd17Zzzz64Tang1Nshu1",
  "Hani2Kits1Zzzz11Hani7Zzzz9Tang6912Kits470Zzzz41Kits1Tang31Zzzz97Tang115Zzzz8701Kana4Zzzz1Kana7",
  "Zzzz1Kana2Zzzz1Kana1Hira287Kana3Zzzz15Hira1Zzzz29Hira3Zzzz2Kana1Zzzz14Kana4Zzzz8Nshu396",
  "Zzzz2308Dupl107Zzzz5Dupl13Zzzz3Dupl9Zzzz7Dupl10Zzzz2Dupl4Zyyy4Zzzz3932Zyyy253Zzzz3Zyyy436Zzzz6",
  "Zyyy23Zzzz15Zyyy17Zzzz15Zinh46Zzzz2Zinh23Zzzz9Zyyy116Zzzz60Zyyy246Zzzz10Zyyy39Zzzz2Zyyy62Zinh3",
  "Zyyy17Zinh8Zyyy2Zinh7Zyyy30Zinh4Zyyy61Zzzz21Grek70Zzzz122Zyyy20Zzzz12Zyyy20Zzzz12Zyyy87Zzzz9",
  "Zyyy25Zzzz135Zyyy85Zzzz1Zyyy71Zzzz1Zyyy2Zzzz2Zyyy1Zzzz2Zyyy2Zzzz2Zyyy4Zzzz1Zyyy12Zzzz1Zyyy1",
  "Zzzz1Zyyy7Zzzz1Zyyy65Zzzz1Zyyy4Zzzz2Zyyy8Zzzz1Zyyy7Zzzz1Zyyy28Zzzz1Zyyy4Zzzz1Zyyy5Zzzz1Zyyy1",
  "Zzzz3Zyyy7Zzzz1Zyyy340Zzzz2Zyyy292Zzzz2Zyyy50Sgnw652Zzzz15Sgnw5Zzzz1Sgnw15Zzzz1104Latn31Zzzz6",
  "Latn6Zzzz213Glag7Zzzz1Glag17Zzzz2Glag7Zzzz1Glag2Zzzz1Glag5Zzzz5Cyrl62Zzzz33Cyrl1Zzzz112Hmnp45",
  "Zzzz3Hmnp14Zzzz2Hmnp10Zzzz4Hmnp2Zzzz320Toto31Zzzz17Wcho58Zzzz5Wcho1Zzzz464Nagm42Zzzz214Onao43",
  "Zzzz4Onao1Zzzz192Tayo31Zzzz1Tayo22Zzzz8Tayo2Zzzz224Ethi7Zzzz1Ethi4Zzzz1Ethi2Zzzz1Ethi15Zzzz1",
  "Mend197Zzzz2Mend16Zzzz41Adlm76Zzzz4Adlm10Zzzz4Adlm2Zzzz785Zyyy68Zzzz76Zyyy61Zzzz194Arab4Zzzz1",
  "Arab27Zzzz1Arab2Zzzz1Arab1Zzzz2Arab1Zzzz1Arab10Zzzz1Arab4Zzzz1Arab1Zzzz1Arab1Zzzz6Arab1Zzzz4",
  "Arab1Zzzz1Arab1Zzzz1Arab1Zzzz1Arab3Zzzz1Arab2Zzzz1Arab1Zzzz2Arab1Zzzz1Arab1Zzzz1Arab1Zzzz1",
  "Arab1Zzzz1Arab1Zzzz1Arab2Zzzz1Arab1Zzzz2Arab4Zzzz1Arab7Zzzz1Arab4Zzzz1Arab4Zzzz1Arab1Zzzz1",
  "Arab10Zzzz1Arab17Zzzz5Arab3Zzzz1Arab5Zzzz1Arab17Zzzz52Arab2Zzzz270Zyyy44Zzzz4Zyyy100Zzzz12",
  "Zyyy15Zzzz2Zyyy15Zzzz1Zyyy15Zzzz1Zyyy37Zzzz10Zyyy174Zzzz56Zyyy26Hira1Zyyy2Zzzz13Zyyy44Zzzz4",
  "Zyyy9Zzzz7Zyyy2Zzzz14Zyyy6Zzzz154Zyyy985Zzzz3Zyyy17Zzzz3Zyyy13Zzzz3Zyyy218Zzzz6Zyyy12Zzzz4",
  "Zyyy1Zzzz15Zyyy12Zzzz4Zyyy56Zzzz8Zyyy10Zzzz6Zyyy40Zzzz8Zyyy30Zzzz2Zyyy12Zzzz4Zyyy2Zzzz14Zyyy9",
  "Zzzz39Zyyy344Zzzz8Zyyy14Zzzz2Zyyy13Zzzz3Zyyy11Zzzz3Zyyy57Zzzz1Zyyy1Zzzz4Zyyy16Zzzz2Zyyy12Zzzz4",
  "Zyyy10Zzzz7Zyyy147Zzzz1Zyyy103Zzzz1029Hani42720Zzzz32Hani4382Zzzz2Hani5774Zzzz2Hani7473Zzzz15",
  "Hani622Zzzz2466Hani542Zzzz1506Hani4939Zzzz5Hani8490Zzzz707463Zyyy1Zzzz30Zyyy96Zzzz128Zinh240",
  "Zzzz196112"]

def scriptNames : List (String × String) := [
  ("Adlm", "Adlam"), ("Aghb", "Caucasian_Albanian"), ("Ahom", "Ahom"), ("Arab", "Arabic"),
  ("Armi", "Imperial_Aramaic"), ("Armn", "Armenian"), ("Avst", "Avestan"), ("Bali", "Balinese"),
  ("Bamu", "Bamum"), ("Bass", "Bassa_Vah"), ("Batk", "Batak"), ("Beng", "Bengali"),
  ("Bhks", "Bhaiksuki"), ("Bopo", "Bopomofo"), ("Brah", "Brahmi"), ("Brai", "Braille"),
  ("Bugi", "Buginese"), ("Buhd", "Buhid"), ("Cakm", "Chakma"), ("Cans", "Canadian_Aboriginal"),
  ("Cari", "Carian"), ("Cham", "Cham"), ("Cher", "Cherokee"), ("Chrs", "Chorasmian"),
  ("Copt", "Coptic Qaac"), ("Cpmn", "Cypro_Minoan"), ("Cprt", "Cypriot"), ("Cyrl", "Cyrillic"),
  ("Deva", "Devanagari"), ("Diak", "Dives_Akuru"), ("Dogr", "Dogra"), ("Dsrt", "Deseret"),
  ("Dupl", "Duployan"), ("Egyp", "Egyptian_Hieroglyphs"), ("Elba", "Elbasan"),
  ("Elym", "Elymaic"), ("Ethi", "Ethiopic"), ("Geor", "Georgian"), ("Glag", "Glagolitic"),
  ("Gong", "Gunjala_Gondi"), ("Gonm", "Masaram_Gondi"), ("Goth", "Gothic"), ("Gran", "Grantha"),
  ("Grek", "Greek"), ("Gujr", "Gujarati"), ("Guru", "Gurmukhi"), ("Hang", "Hangul"),
  ("Hani", "Han"), ("Hano", "Hanunoo"), ("Hatr", "Hatran"), ("Hebr", "Hebrew"),
  ("Hira", "Hiragana"), ("Hluw", "Anatolian_Hieroglyphs"), ("Hmng", "Pahawh_Hmong"),
  ("Hmnp", "Nyiakeng_Puachue_Hmong"), ("Hung", "Old_Hungarian"), ("Ital", "Old_Italic"),
  ("Java", "Javanese"), ("Kali", "Kayah_Li"), ("Kana", "Katakana"), ("Kawi", "Kawi"),
  ("Khar", "Kharoshthi"), ("Khmr", "Khmer"), ("Khoj", "Khojki"), ("Kits", "Khitan_Small_Script"),
  ("Knda", "Kannada"), ("Kthi", "Kaithi"), ("Lana", "Tai_Tham"), ("Laoo", "Lao"),
  ("Latn", "Latin"), ("Lepc", "Lepcha"), ("Limb", "Limbu"), ("Lina", "Linear_A"),
  ("Linb", "Linear_B"), ("Lisu", "Lisu"), ("Lyci", "Lycian"), ("Lydi", "Lydian"),
  ("Mahj", "Mahajani"), ("Maka", "Makasar"), ("Mand", "Mandaic"), ("Mani", "Manichaean"),
  ("Marc", "Marchen"), ("Medf", "Medefaidrin"), ("Mend", "Mende_Kikakui"),
  ("Merc", "Meroitic_Cursive"), ("Mero", "Meroitic_Hieroglyphs"), ("Mlym", "Malayalam"),
  ("Modi", "Modi"), ("Mong", "Mongolian"), ("Mroo", "Mro"), ("Mtei", "Meetei_Mayek"),
  ("Mult", "Multani"), ("Mymr", "Myanmar"), ("Nagm", "Nag_Mundari"), ("Nand", "Nandinagari"),
  ("Narb", "Old_North_Arabian"), ("Nbat", "Nabataean"), ("Newa", "Newa"), ("Nkoo", "Nko"),
  ("Nshu", "Nushu"), ("Ogam", "Ogham"), ("Olck", "Ol_Chiki"), ("Orkh", "Old_Turkic"),
  ("Orya", "Oriya"), ("Osge", "Osage"), ("Osma", "Osmanya"), ("Ougr", "Old_Uyghur"),
  ("Palm", "Palmyrene"), ("Pauc", "Pau_Cin_Hau"), ("Perm", "Old_Permic"), ("Phag", "Phags_Pa"),
  ("Phli", "Inscriptional_Pahlavi"), ("Phlp", "Psalter_Pahlavi"), ("Phnx", "Phoenician"),
  ("Plrd", "Miao"), ("Prti", "Inscriptional_Parthian"), ("Rjng", "Rejang"),
  ("Rohg", "Hanifi_Rohingya"), ("Runr", "Runic"), ("Samr", "Samaritan"),
  ("Sarb", "Old_South_Arabian"), ("Saur", "Saurashtra"), ("Sgnw", "SignWriting"),
  ("Shaw", "Shavian"), ("Shrd", "Sharada"), ("Sidd", "Siddham"), ("Sind", "Khudawadi"),
  ("Sinh", "Sinhala"), ("Sogd", "Sogdian"), ("Sogo", "Old_Sogdian"), ("Sora", "Sora_Sompeng"),
  ("Soyo", "Soyombo"), ("Sund", "Sundanese"), ("Sylo", "Syloti_Nagri"), ("Syrc", "Syriac"),
  ("Tagb", "Tagbanwa"), ("Takr", "Takri"), ("Tale", "Tai_Le"), ("Talu", "New_Tai_Lue"),
  ("Taml", "Tamil"), ("Tang", "Tangut"), ("Tavt", "Tai_Viet"), ("Telu", "Telugu"),
  ("Tfng", "Tifinagh"), ("Tglg", "Tagalog"), ("Thaa", "Thaana"), ("Thai", "Thai"),
  ("Tibt", "Tibetan"), ("Tirh", "Tirhuta"), ("Tnsa", "Tangsa"), ("Toto", "Toto"),
  ("Ugar", "Ugaritic"), ("Vaii", "Vai"), ("Vith", "Vithkuqi"), ("Wara", "Warang_Citi"),
  ("Wcho", "Wancho"), ("Xpeo", "Old_Persian"), ("Xsux", "Cuneiform"), ("Yezi", "Yezidi"),
  ("Yiii", "Yi"), ("Zanb", "Zanabazar_Square"), ("Zinh", "Inherited Qaai"), ("Zyyy", "Common"),
  ("Gara", "Garay"), ("Gukh", "Gurung_Khema"), ("Krai", "Kirat_Rai"), ("Onao", "Ol_Onal"),
  ("Sunu", "Sunuwar"), ("Todr", "Todhri"), ("Tutg", "Tulu_Tigalari")]

def scriptRuns? (name : List Char) : Option Runs :=
  (scriptNames.find? fun (short, long) =>
    (short.toList :: Text.words long.toList).any fun n => looseName n == name).map fun (short, _) =>
      (Coded.ofLines scriptTable).runs [short.toList]

end TidyRows.Unicode
